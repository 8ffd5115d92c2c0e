import Mathlib.Algebra.BigOperators.Ring.Finset
import Mathlib.Tactic.Linarith

/-!
# Signed machine integers with checked arithmetic

Signed two's-complement integers of a fixed width, kept as mathematical integers together with
the proof that they are in range, and the *checked* operations on them: an operation either
returns the exact mathematical result or reports that it does not fit. Nothing wraps silently,
so a fact about a checked result is a fact about integers.

## Main definitions

* `FixedInt w` — the integers in `[-2^(w-1), 2^(w-1))`.
* `FixedInt.ofInt?` — the integer as a machine integer, when it is in range.
* `FixedInt.checkedAdd`, `checkedSub`, `checkedMul`, `checkedNeg`, `checkedAbs`, `checkedDiv` —
  the exact result or `none`.
* `FixedInt.saturatingSub` — subtraction clamped to the range.
* `FixedInt.truncate` — the low bits of an integer, as a cast keeps them.
* `FixedInt.checkedSum`, `FixedInt.checkedAbsSum` — left-to-right sums that stop at the first
  overflow.

## Main results

* `FixedInt.ofInt?_eq_some` and the lemmas after it — a checked operation returns `c` exactly
  when `c` is the mathematical result.
* `FixedInt.checkedSum_eq_some`, `FixedInt.checkedAbsSum_eq_some` — a checked sum that succeeds
  is the mathematical sum.
-/

/-- The signed integers of width `w`: `-2^(w-1) ≤ val < 2^(w-1)`. -/
@[ext]
structure FixedInt (w : ℕ) where
  /-- The mathematical value. -/
  val : ℤ
  /-- The value is not below the smallest machine integer. -/
  lower : -2 ^ (w - 1) ≤ val
  /-- The value is below the first integer that does not fit. -/
  upper : val < 2 ^ (w - 1)
deriving DecidableEq

/-- A signed 32-bit integer. -/
abbrev I32 := FixedInt 32

/-- A signed 64-bit integer. -/
abbrev I64 := FixedInt 64

/-- A signed 128-bit integer. -/
abbrev I128 := FixedInt 128

namespace FixedInt

variable {w : ℕ}

instance : Zero (FixedInt w) := ⟨⟨0, by simp, by positivity⟩⟩

instance : Inhabited (FixedInt w) := ⟨0⟩

/-- The machine zero is the integer zero. -/
@[simp] lemma val_zero : (0 : FixedInt w).val = 0 := rfl

variable {a b : FixedInt w} {z : ℤ} {c : FixedInt w} {l : List (FixedInt w)}

/-- A machine integer is zero iff its value is. -/
@[simp] lemma val_eq_zero : a.val = 0 ↔ a = 0 :=
  ⟨fun h => FixedInt.ext h, fun h => by rw [h]; rfl⟩

/-- The sign of a machine integer, as `-1`, `0` or `1`. -/
def signum (a : FixedInt w) : ℤ := a.val.sign

/-- The sign of a positive machine integer. -/
lemma signum_of_pos (h : 0 < a.val) : a.signum = 1 :=
  Int.sign_eq_one_of_pos h

/-- The sign of a negative machine integer. -/
lemma signum_of_neg (h : a.val < 0) : a.signum = -1 :=
  Int.sign_eq_neg_one_of_neg h

/-- A machine integer has the sign of a positive one iff it is positive. -/
lemma signum_eq_of_pos (h : 0 < a.val) : b.signum = a.signum ↔ 0 < b.val := by
  rw [signum_of_pos h]
  exact Int.sign_eq_one_iff_pos

/-- A machine integer has the sign of a negative one iff it is negative. -/
lemma signum_eq_of_neg (h : a.val < 0) : b.signum = a.signum ↔ b.val < 0 := by
  rw [signum_of_neg h]
  exact Int.sign_eq_neg_one_iff_neg

/-- A machine integer is not zero iff its value is negative or positive. -/
lemma neg_or_pos_of_ne_zero (h : a ≠ 0) : a.val < 0 ∨ 0 < a.val :=
  lt_or_gt_of_ne fun hval => h (val_eq_zero.mp hval)

/-- The absolute value as an unsigned integer; defined also for the smallest machine integer,
whose absolute value is no machine integer. -/
def unsignedAbs (a : FixedInt w) : ℕ := a.val.natAbs

/-! ## Conversion into range -/

/-- The integer `z` as a machine integer, when it is in range. -/
def ofInt? (z : ℤ) : Option (FixedInt w) :=
  if h : -2 ^ (w - 1) ≤ z ∧ z < 2 ^ (w - 1) then some ⟨z, h.1, h.2⟩ else none

/-- A literal: the integer `z`, whose range check is closed by evaluation. -/
def lit (z : ℤ) (h : decide (-2 ^ (w - 1) ≤ z ∧ z < 2 ^ (w - 1)) = true := by exact Eq.refl true) :
    FixedInt w :=
  ⟨z, (of_decide_eq_true h).1, (of_decide_eq_true h).2⟩

/-- Conversion succeeds with `a` exactly when `a` has the requested value. -/
@[simp] lemma ofInt?_eq_some : ofInt? z = some a ↔ a.val = z := by
  unfold ofInt?
  constructor
  · intro h
    split_ifs at h with hz
    rw [← Option.some.inj h]
  · intro h
    have hz : -2 ^ (w - 1) ≤ z ∧ z < 2 ^ (w - 1) := h ▸ ⟨a.lower, a.upper⟩
    rw [dif_pos hz]
    exact congrArg some (FixedInt.ext h.symm)

/-- A non-negative machine integer has a negation: only the smallest one has none. -/
lemma exists_val_eq_neg (h : 0 ≤ a.val) : ∃ b : FixedInt w, b.val = -a.val :=
  ⟨⟨-a.val, by have := a.upper; omega, by have := a.upper; omega⟩, rfl⟩

/-! ## Checked operations -/

/-- `a + b`, or `none` on overflow. -/
def checkedAdd (a b : FixedInt w) : Option (FixedInt w) := ofInt? (a.val + b.val)

/-- `a - b`, or `none` on overflow. -/
def checkedSub (a b : FixedInt w) : Option (FixedInt w) := ofInt? (a.val - b.val)

/-- `a * z`, or `none` on overflow. -/
def checkedMul (a : FixedInt w) (z : ℤ) : Option (FixedInt w) := ofInt? (a.val * z)

/-- `-a`, or `none` for the smallest machine integer. -/
def checkedNeg (a : FixedInt w) : Option (FixedInt w) := ofInt? (-a.val)

/-- `|a|`, or `none` for the smallest machine integer. -/
def checkedAbs (a : FixedInt w) : Option (FixedInt w) := ofInt? a.val.natAbs

/-- `a / b` rounded toward zero, or `none` when `b = 0` or the quotient does not fit. -/
def checkedDiv (a b : FixedInt w) : Option (FixedInt w) :=
  if b.val = 0 then none else ofInt? (a.val.tdiv b.val)

/-- `a / b` rounded toward zero; by a positive number it always fits. -/
def divPos (a b : FixedInt w) (hb : 0 < b.val) : FixedInt w :=
  ⟨a.val.tdiv b.val, by
    have hle := Int.natAbs_tdiv_le_natAbs a.val b.val
    have := a.lower
    have : (0 : ℤ) < 2 ^ (w - 1) := by positivity
    rcases le_or_gt 0 a.val with ha | ha
    · have := Int.tdiv_nonneg ha hb.le
      omega
    · omega, by
    have hle := Int.natAbs_tdiv_le_natAbs a.val b.val
    have := a.upper
    rcases le_or_gt 0 a.val with ha | ha
    · omega
    · have := Int.tdiv_nonneg (Int.neg_nonneg_of_nonpos ha.le) hb.le
      rw [Int.neg_tdiv] at this
      have : (0 : ℤ) < 2 ^ (w - 1) := by positivity
      omega⟩

/-- `a - b` clamped to the range. -/
def saturatingSub (a b : FixedInt w) : FixedInt w :=
  ⟨max (-2 ^ (w - 1)) (min (a.val - b.val) (2 ^ (w - 1) - 1)), le_max_left _ _, by
    have : (0 : ℤ) < 2 ^ (w - 1) := by positivity
    omega⟩

/-- `z` cut to the width: its low `w` bits, read as a signed number. -/
def truncate (z : ℤ) : FixedInt w :=
  ⟨(z + 2 ^ (w - 1)) % (2 * 2 ^ (w - 1)) - 2 ^ (w - 1), by
    have : (0 : ℤ) < 2 ^ (w - 1) := by positivity
    have := Int.emod_nonneg (z + 2 ^ (w - 1)) (b := 2 * 2 ^ (w - 1)) (by omega)
    omega, by
    have : (0 : ℤ) < 2 ^ (w - 1) := by positivity
    have := Int.emod_lt_of_pos (z + 2 ^ (w - 1)) (b := 2 * 2 ^ (w - 1)) (by omega)
    omega⟩

/-- A checked sum is the mathematical sum. -/
@[simp] lemma checkedAdd_eq_some : checkedAdd a b = some c ↔ c.val = a.val + b.val := ofInt?_eq_some

/-- A checked difference is the mathematical difference. -/
@[simp] lemma checkedSub_eq_some : checkedSub a b = some c ↔ c.val = a.val - b.val := ofInt?_eq_some

/-- A checked product is the mathematical product. -/
@[simp] lemma checkedMul_eq_some : checkedMul a z = some c ↔ c.val = a.val * z := ofInt?_eq_some

/-- A checked absolute value is the mathematical absolute value. -/
@[simp] lemma checkedAbs_eq_some : checkedAbs a = some c ↔ c.val = a.val.natAbs := ofInt?_eq_some

/-- Subtracting nonnegative numbers never saturates. -/
lemma saturatingSub_val_of_nonneg (ha : 0 ≤ a.val) (hb : 0 ≤ b.val) :
    (saturatingSub a b).val = a.val - b.val := by
  have h₁ := a.upper
  have h₂ := b.upper
  simp only [saturatingSub]
  omega

/-! ## Checked sums -/

/-- The left-to-right sum of `term` over a list, from `acc`, or `none` at the first term that is
undefined or the first overflow. -/
def checkedSumFrom {α : Type} (term : α → Option (FixedInt w)) (acc : FixedInt w) :
    List α → Option (FixedInt w)
  | [] => some acc
  | a :: l => (term a).bind fun t => (checkedAdd acc t).bind fun s => checkedSumFrom term s l

/-- The left-to-right sum, or `none` at the first overflow. -/
def checkedSum (l : List (FixedInt w)) : Option (FixedInt w) := checkedSumFrom some 0 l

/-- The left-to-right sum of the absolute values, or `none` at the first overflow. -/
def checkedAbsSum (l : List (FixedInt w)) : Option (FixedInt w) := checkedSumFrom checkedAbs 0 l

/-- A checked sum that succeeds is the mathematical sum of its terms. -/
lemma checkedSumFrom_eq_some {α : Type} {term : α → Option (FixedInt w)} {value : α → ℤ}
    (hterm : ∀ a t, term a = some t → t.val = value a) {l : List α} :
    ∀ {acc c : FixedInt w}, checkedSumFrom term acc l = some c →
      c.val = acc.val + (l.map value).sum := by
  induction l with
  | nil =>
    intro acc c h
    simp only [checkedSumFrom, Option.some.injEq] at h
    simp [h]
  | cons a l ih =>
    intro acc c h
    simp only [checkedSumFrom, Option.bind_eq_some_iff, checkedAdd_eq_some] at h
    obtain ⟨t, ht, s, hs, h⟩ := h
    rw [ih h, hs, hterm a t ht, List.map_cons, List.sum_cons]
    omega

/-- A checked sum that succeeds is the mathematical sum. -/
lemma checkedSum_eq_some (h : checkedSum l = some c) : c.val = (l.map FixedInt.val).sum := by
  have := checkedSumFrom_eq_some (fun a t ht => by rw [Option.some.inj ht]) h
  simpa using this

/-- A checked sum of absolute values that succeeds is their mathematical sum. -/
lemma checkedAbsSum_eq_some (h : checkedAbsSum l = some c) :
    c.val = ((l.map unsignedAbs).sum : ℕ) := by
  have hsum := checkedSumFrom_eq_some (fun a t ht => checkedAbs_eq_some.mp ht) h
  rw [val_zero, zero_add] at hsum
  rw [hsum, Nat.cast_list_sum, List.map_map]
  rfl

end FixedInt
