import VoxTrader.Lib.Check
import VoxTrader.Lib.FixedInt
import VoxTrader.Lib.Json
import Mathlib.Tactic

/-!
# Exact decimals

Prices cross the public boundary as decimal texts: a sign, a whole number, a dot and up to nine
digits. What is stored is read again when a command is built from it.

## Main definitions

* `parseNanos` — the number a text denotes.
* `Decimal` — a stored text; `Decimal.toFixedPoint`.

## Main results

* `parseNanos_range` — a number that is read has at most the units the broker can be sent.
-/

namespace VoxTrader.Api

open Except (seq_eq_ok stopIf orStop)

/-- Why a text is not a decimal. -/
inductive DecimalError
  | empty
  | invalidGrammar
  | tooPrecise
  | outOfRange
deriving DecidableEq

/-- The error as it is reported. -/
def DecimalError.text : DecimalError → String
  | empty => "decimal cannot be empty or whitespace"
  | invalidGrammar => "decimal must be a canonical fixed-point string, not exponent, NaN, " ++
      "Infinity, or free-form text"
  | tooPrecise => "decimal has more precision than the canonical nano scale of nine fraction digits"
  | outOfRange => "decimal is outside the exact backend range"

/-- The digits after the dot. -/
def fractionDigits : ℕ := 9

/-- The nano units of one unit. -/
def nanoScale : ℕ := 1000000000

/-- The largest number of units. -/
def maxUnits : ℕ := 9223372036854775807

/-- A leading minus sign, and what follows. -/
def splitSign : List Char → Bool × List Char
  | '-' :: rest => (true, rest)
  | rest => (false, rest)

/-- What stands before and after the first dot. -/
def splitPoint (text : List Char) : List Char × List Char :=
  (text.takeWhile (· ≠ '.'), (text.dropWhile (· ≠ '.')).tail)

/-- The nano units of a sign, units and nano units. -/
def signedNanos (negative : Bool) (units nano : ℕ) : Except DecimalError I128 := do
  let scaled : I128 ← orStop (FixedInt.ofInt? (units * nanoScale)) .outOfRange
  let magnitude : I128 ← orStop (FixedInt.ofInt? (scaled.val + nano)) .outOfRange
  orStop (FixedInt.ofInt? (if negative then -magnitude.val else magnitude.val)) .outOfRange

/-- The number a whole part and the digits after the dot denote. -/
def parseParts (negative : Bool) (whole frac : List Char) : Except DecimalError I128 := do
  stopIf (whole = [] ∨ ¬ whole.all Char.isDigit ∨ ¬ frac.all Char.isDigit ∨
    (1 < whole.length ∧ whole.head? = some '0')) .invalidGrammar
  stopIf (fractionDigits < frac.length) .tooPrecise
  let units := Nat.ofDigitChars 10 whole 0
  stopIf (maxUnits < units) .outOfRange
  let nano := Nat.ofDigitChars 10 (frac ++ List.replicate (fractionDigits - frac.length) '0') 0
  signedNanos negative units nano

/-- The number a text denotes. -/
def parseNanos (input : List Char) : Except DecimalError I128 := do
  stopIf (input = [] ∨ input.any Text.isWhitespace) .empty
  -- exponents, `NaN`, infinities and a plus sign have other characters
  stopIf (¬ input.all fun c => c.isDigit || c = '.' || c = '-') .invalidGrammar
  let (negative, rest) := splitSign input
  stopIf (rest = [] ∨ rest.head? = some '.' ∨ rest.getLast? = some '.' ∨ '-' ∈ rest) .invalidGrammar
  let (whole, frac) := splitPoint rest
  parseParts negative whole frac

/-- A decimal as it is stored. -/
structure Decimal where
  text : String
deriving DecidableEq

namespace Decimal

/-- The exact value of a decimal. -/
def toFixedPoint (decimal : Decimal) : Except DecimalError I128 := parseNanos decimal.text.toList

end Decimal

/-! ## The range -/

/-- Digits are worth less than the power of ten of their number. -/
lemma ofDigitChars_lt {digits : List Char} (h : digits.all Char.isDigit = true) :
    Nat.ofDigitChars 10 digits 0 < 10 ^ digits.length := by
  induction digits using List.reverseRecOn with
  | nil => simp
  | append_singleton rest c ih =>
    rw [List.all_append, Bool.and_eq_true] at h
    have hrest := ih h.1
    have hc : c.toNat - '0'.toNat < 10 := by
      have := h.2
      simp only [List.all_cons, List.all_nil, Bool.and_true, Char.isDigit, Bool.and_eq_true,
        decide_eq_true_eq, UInt32.le_iff_toNat_le] at this
      have h1 : c.toNat ≤ 57 := this.2
      simp
      omega
    rw [Nat.ofDigitChars_append, Nat.ofDigitChars_cons, Nat.ofDigitChars_nil, List.length_append,
      List.length_singleton, pow_succ]
    omega

/-- The units of a signed number are the units it was made of. -/
lemma signedNanos_eq_ok {negative : Bool} {units nano : ℕ} {n : I128}
    (h : signedNanos negative units nano = .ok n) :
    n.val = if negative then -((units * nanoScale + nano : ℕ) : ℤ)
      else (units * nanoScale + nano : ℕ) := by
  simp only [signedNanos, seq_eq_ok, Except.orStop_eq_ok, FixedInt.ofInt?_eq_some] at h
  obtain ⟨scaled, hscaled, magnitude, hmagnitude, h⟩ := h
  rw [h, hmagnitude, hscaled]
  push_cast
  rfl

/-- The padded digits after the dot are worth less than one unit. -/
lemma fraction_lt {frac : List Char} (hdigits : frac.all Char.isDigit = true)
    (hlength : frac.length ≤ fractionDigits) :
    Nat.ofDigitChars 10 (frac ++ List.replicate (fractionDigits - frac.length) '0') 0 <
      nanoScale := by
  have hall : (frac ++ List.replicate (fractionDigits - frac.length) '0').all
    Char.isDigit = true := by
    rw [List.all_append, hdigits, List.all_replicate]
    split <;> rfl
  have hlt := ofDigitChars_lt hall
  rw [List.length_append, List.length_replicate, Nat.add_sub_cancel' hlength] at hlt
  exact hlt

lemma parseParts_range {negative : Bool} {whole frac : List Char} {n : I128}
    (h : parseParts negative whole frac = .ok n) : n.val.natAbs / nanoScale ≤ maxUnits := by
  simp only [parseParts, seq_eq_ok, Except.exists_unit_ok] at h
  obtain ⟨hform, hlength, hunits, h⟩ := h
  simp only [Except.stopIf_eq_ok, not_or, not_not, not_lt] at hform hlength hunits
  obtain ⟨-, -, hdigits, -⟩ := hform
  have hnano := fraction_lt hdigits hlength
  have hval := signedNanos_eq_ok h
  generalize Nat.ofDigitChars 10 whole 0 = units at hunits hval
  generalize Nat.ofDigitChars 10 (frac ++ _) 0 = nano at hnano hval
  have habs : n.val.natAbs = units * nanoScale + nano := by
    rw [hval]
    split <;> omega
  rw [habs, Nat.mul_comm, Nat.mul_add_div (by decide), Nat.div_eq_of_lt hnano]
  exact hunits

/-- **A number that is read has at most the units the broker can be sent.** -/
lemma parseNanos_range {input : List Char} {n : I128} (h : parseNanos input = .ok n) :
    n.val.natAbs / nanoScale ≤ maxUnits := by
  simp only [parseNanos, seq_eq_ok, Except.exists_unit_ok] at h
  obtain ⟨-, -, -, h⟩ := h
  exact parseParts_range h

end VoxTrader.Api
