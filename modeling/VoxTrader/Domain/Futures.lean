import VoxTrader.Api.Decimal

/-!
# The economics of a future

A future is quoted in points. The price of a point in money is derived once, from the tick and
the money one tick is worth, and refused when it is not a whole number of nanos. A position's
value is the price in points times that, and is refused when it is not exact either.

## Main definitions

* `FuturesEconomics.new`, `FuturesEconomics.valueForPrice` — the two computations, with their
  checks in the order of the source.

## Main results

* `value_exact` — **a value is exact**, and whole ticks always have one unless it overflows.
-/

namespace VoxTrader.Domain

open Except (seq_eq_ok stopIf orStop exists_unit_ok stopIf_eq_ok orStop_eq_ok)
open Api (nanoScale)

/-- Why the metadata or a value is refused. -/
inductive FuturesEconomicsError
  | nonPositive (field : String)
  | tickMismatch
  | inexactMoneyPerPoint
  | inexactMonetaryValue
  | arithmeticOverflow
deriving DecidableEq

/-- Checked economics of a future. -/
structure FuturesEconomics where
  minPriceIncrement : I128
  minPriceIncrementAmount : I128
  moneyPerPoint : I128
deriving DecidableEq

/-- A number that has to be above zero. -/
def requirePositive (field : String) (value : I128) : Except FuturesEconomicsError Unit :=
  stopIf (¬ 0 < value.val) (.nonPositive field)

/-- The scale of a nano amount. -/
def nanoScale128 : I128 := ⟨nanoScale, by decide, by decide⟩

namespace FuturesEconomics

/-- Derive the money per point. -/
def new (catalogueMinPriceIncrement marginMinPriceIncrement minPriceIncrementAmount : I128) :
    Except FuturesEconomicsError FuturesEconomics := do
  requirePositive "catalogue_min_price_increment" catalogueMinPriceIncrement
  if hpos : 0 < marginMinPriceIncrement.val then
    requirePositive "min_price_increment_amount" minPriceIncrementAmount
    stopIf (catalogueMinPriceIncrement ≠ marginMinPriceIncrement) .tickMismatch
    let numerator ← orStop (minPriceIncrementAmount.checkedMul nanoScale) .arithmeticOverflow
    stopIf (numerator.val.tmod marginMinPriceIncrement.val ≠ 0) .inexactMoneyPerPoint
    .ok ⟨marginMinPriceIncrement, minPriceIncrementAmount,
      numerator.divPos marginMinPriceIncrement hpos⟩
  else
    .error (.nonPositive "margin_min_price_increment")

/-- The quoted price times the money per point times the number of contracts. -/
def valueForPrice (economics : FuturesEconomics) (quotedPrice : I128) (contracts : ℕ) :
    Except FuturesEconomicsError I128 := do
  requirePositive "quoted_price" quotedPrice
  stopIf (contracts = 0) (.nonPositive "contracts")
  let product ← orStop (quotedPrice.checkedMul economics.moneyPerPoint.val) .arithmeticOverflow
  stopIf (product.val.tmod nanoScale ≠ 0) .inexactMonetaryValue
  orStop ((product.divPos nanoScale128 (by decide)).checkedMul contracts) .arithmeticOverflow

variable {catalogue margin amount price value : I128} {economics : FuturesEconomics} {contracts : ℕ}

/-- What the constructor makes sure of: the money per point times the tick is the tick's amount. -/
lemma new_exact (h : new catalogue margin amount = .ok economics) :
    0 < economics.minPriceIncrement.val ∧
      economics.moneyPerPoint.val * economics.minPriceIncrement.val =
        economics.minPriceIncrementAmount.val * nanoScale := by
  simp only [new, seq_eq_ok, exists_unit_ok] at h
  obtain ⟨-, h⟩ := h
  split_ifs at h with hpos
  simp only [seq_eq_ok, exists_unit_ok, stopIf_eq_ok, orStop_eq_ok,
    FixedInt.checkedMul_eq_some, not_not] at h
  obtain ⟨-, -, -, numerator, hnumerator, -, hexact, h⟩ := h
  cases h
  refine ⟨hpos, ?_⟩
  have hdvd := Int.tdiv_mul_cancel (Int.dvd_of_tmod_eq_zero hexact)
  exact hdvd.trans hnumerator

/-- A value is the exact product, scaled down once. -/
lemma valueForPrice_eq_ok (h : economics.valueForPrice price contracts = .ok value) :
    value.val * nanoScale = price.val * economics.moneyPerPoint.val * contracts := by
  simp only [valueForPrice, seq_eq_ok, exists_unit_ok, stopIf_eq_ok,
    orStop_eq_ok, FixedInt.checkedMul_eq_some, not_not] at h
  obtain ⟨-, -, -, product, hproduct, -, hexact, hvalue⟩ := h
  have hdvd : product.val.tdiv nanoScale * nanoScale = product.val :=
    Int.tdiv_mul_cancel (Int.dvd_of_tmod_eq_zero hexact)
  calc value.val * nanoScale = product.val.tdiv nanoScale * contracts * nanoScale := by
        rw [hvalue]; rfl
    _ = product.val.tdiv nanoScale * nanoScale * contracts := by ring
    _ = price.val * economics.moneyPerPoint.val * contracts := by rw [hdvd, hproduct]

/-- A number of nanos as a number. -/
def number (value : I128) : ℚ := (value.val : ℚ) / nanoScale

/-- A price of `k` ticks, as a product with the money per point. -/
lemma ticks_mul {k : ℤ} (hnew : new catalogue margin amount = .ok economics)
    (hprice : price.val = k * economics.minPriceIncrement.val) :
    price.val * economics.moneyPerPoint.val =
      k * economics.minPriceIncrementAmount.val * nanoScale := by
  have hexact := (new_exact hnew).2
  rw [hprice]
  linear_combination k * hexact

/-- A positive price that makes a whole number of nanos has its value, or overflows. -/
lemma valueForPrice_ticks {each : ℤ} (hprice : 0 < price.val) (hcontracts : 0 < contracts)
    (heach : price.val * economics.moneyPerPoint.val = each * nanoScale) :
    (∃ value, economics.valueForPrice price contracts = .ok value ∧ value.val = each * contracts) ∨
      economics.valueForPrice price contracts = .error .arithmeticOverflow := by
  rcases h : economics.valueForPrice price contracts with error | value
  · right
    simp only [valueForPrice, requirePositive, Except.seq_eq_error, Except.stopIf_eq_error,
      Except.orStop_eq_error, orStop_eq_ok, FixedInt.checkedMul_eq_some] at h
    -- the checks for a sign, for contracts and for a remainder pass; what is left overflows
    rcases h with ⟨hneg, -⟩ | ⟨-, -, ⟨hnone, -⟩ | ⟨-, -, ⟨-, rfl⟩ | ⟨product, hproduct, h⟩⟩⟩
    · exact absurd hprice hneg
    · exact absurd hnone hcontracts.ne'
    · rfl
    · rcases h with ⟨hrest, -⟩ | ⟨-, -, -, rfl⟩
      · rw [hproduct, heach, Int.mul_tmod_left] at hrest
        exact absurd rfl hrest
      · rfl
  · refine .inl ⟨value, rfl, ?_⟩
    have hvalue := valueForPrice_eq_ok h
    rw [heach] at hvalue
    have hscale : (nanoScale : ℤ) ≠ 0 := by decide
    exact mul_right_cancel₀ hscale (by linear_combination hvalue)

/-- A price or a number of contracts that is not positive is refused as such. -/
lemma valueForPrice_refused (h : ¬ (0 < price.val ∧ 0 < contracts)) :
    ∃ field, economics.valueForPrice price contracts = .error (.nonPositive field) := by
  unfold valueForPrice requirePositive
  by_cases hprice : 0 < price.val
  · have hnone : contracts = 0 := by omega
    refine ⟨"contracts", ?_⟩
    rw [stopIf, if_neg (not_not.mpr hprice), hnone]
    rfl
  · refine ⟨"quoted_price", ?_⟩
    rw [stopIf, if_pos hprice]
    rfl

/-- **A value is exact.** As a number it is the price in ticks times the amount of a tick times
the contracts. A price of `k` ticks has the value `k` amounts for each contract, or overflows; it
is refused as not positive exactly when it is, or when there is no contract. -/
theorem value_exact (catalogue margin amount : I128) (economics : FuturesEconomics)
    (hnew : new catalogue margin amount = .ok economics) (price : I128) (contracts : ℕ) :
    (∀ value, economics.valueForPrice price contracts = .ok value →
      number value = number price / number economics.minPriceIncrement *
        number economics.minPriceIncrementAmount * contracts) ∧
    ∀ k : ℤ, price.val = k * economics.minPriceIncrement.val →
      if 0 < k ∧ 0 < contracts then
        (∃ value, economics.valueForPrice price contracts = .ok value ∧
          value.val = k * economics.minPriceIncrementAmount.val * contracts) ∨
        economics.valueForPrice price contracts = .error .arithmeticOverflow
      else ∃ field, economics.valueForPrice price contracts = .error (.nonPositive field) := by
  obtain ⟨htick, hexact⟩ := new_exact hnew
  have hscale : (nanoScale : ℚ) ≠ 0 := by norm_num [nanoScale]
  constructor
  · intro value h
    have hvalue : (value.val : ℚ) * nanoScale =
        price.val * economics.moneyPerPoint.val * contracts := mod_cast valueForPrice_eq_ok h
    have hpoint : (economics.moneyPerPoint.val : ℚ) * economics.minPriceIncrement.val =
        economics.minPriceIncrementAmount.val * nanoScale := mod_cast hexact
    have htick' : (economics.minPriceIncrement.val : ℚ) ≠ 0 := mod_cast htick.ne'
    unfold number
    field_simp
    have hsame : (value.val : ℚ) * economics.minPriceIncrement.val * nanoScale =
        price.val * economics.minPriceIncrementAmount.val * contracts * nanoScale := by
      linear_combination economics.minPriceIncrement.val * hvalue + price.val * contracts * hpoint
    exact mul_right_cancel₀ hscale hsame
  · intro k hprice
    have hpositive : 0 < price.val ↔ 0 < k := by
      rw [hprice]
      exact mul_pos_iff_of_pos_right htick
    split_ifs with hgood
    · exact valueForPrice_ticks (hpositive.mpr hgood.1) hgood.2 (ticks_mul hnew hprice)
    · refine valueForPrice_refused ?_
      rw [hpositive]
      omega

/-- A future of half a point a tick, worth 12.5 a tick. -/
def halfPoint : FuturesEconomics :=
  ⟨⟨500000000, by decide, by decide⟩, ⟨12500000000, by decide, by decide⟩,
    ⟨25000000000, by decide, by decide⟩⟩

/-- Three contracts at two ticks are worth 75. -/
theorem value_two_ticks : ∃ value, halfPoint.valueForPrice ⟨1000000000, by decide, by decide⟩ 3 =
    .ok value ∧ number value = 75 := by
  have hnew : new halfPoint.minPriceIncrement halfPoint.minPriceIncrement
      halfPoint.minPriceIncrementAmount = .ok halfPoint := by decide +kernel
  have hvalue : halfPoint.valueForPrice ⟨1000000000, by decide, by decide⟩ 3 =
      .ok ⟨75000000000, by decide, by decide⟩ := by decide +kernel
  refine ⟨_, hvalue, ?_⟩
  rw [(value_exact _ _ _ _ hnew _ _).1 _ hvalue]
  norm_num [number, halfPoint, nanoScale]

/-- **A price of no tick has no value**, although it does not overflow. -/
theorem zero_ticks_refused : ∃ economics,
    new halfPoint.minPriceIncrement halfPoint.minPriceIncrement
      halfPoint.minPriceIncrementAmount = .ok economics ∧
    (0 : I128).val = 0 * economics.minPriceIncrement.val ∧
    economics.valueForPrice 0 1 = .error (.nonPositive "quoted_price") :=
  ⟨halfPoint, by decide +kernel, by decide, by decide +kernel⟩

end FuturesEconomics

end VoxTrader.Domain
