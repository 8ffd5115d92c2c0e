import Mathlib.Algebra.Group.Nat.Defs
import Mathlib.Order.Fin.Basic
import Mathlib.Order.MinMax
import VoxTrader.TInvest.Reconnect

/-!
# The delays between attempts

The delay before another attempt is doubled after each failed one, up to a maximum. A jitter is
added that depends on the request and on the attempt.

## Main definitions

* `BackoffPolicy.delayFor` — the delay after a failed attempt.

## Main results

* `backoff_bounded_monotone` — the delays stay within the policy and never become shorter.
-/

namespace VoxTrader.TInvest

/-- A duration in nanoseconds; its seconds fit into 64 bits. -/
abbrev Duration := Fin (2 ^ 64 * 10 ^ 9)

namespace Duration

/-- The duration, or the longest one. -/
def saturating (nanos : ℕ) : Duration := ⟨min nanos (2 ^ 64 * 10 ^ 9 - 1), by omega⟩

def saturatingMul (delay : Duration) (factor : ℕ) : Duration := saturating (delay.val * factor)

def saturatingAdd (delay more : Duration) : Duration := saturating (delay.val + more.val)

/-- A duration of its parts; nothing if the seconds overflow, which panics. -/
def new (seconds nanos : ℕ) : Option Duration :=
  if h : seconds * 10 ^ 9 + nanos < 2 ^ 64 * 10 ^ 9 then some ⟨_, h⟩ else none

end Duration

def durationFromNanosSaturating (nanos : ℕ) : Option Duration :=
  let seconds := nanos / 10 ^ 9
  let subsecondNanos := nanos % 10 ^ 9 % 2 ^ 32
  Duration.new (min seconds (2 ^ 64 - 1)) subsecondNanos

inductive RetryPolicyError
  | zeroAttempts
  | zeroInitialDelay
  | maxDelayBelowInitial
  | invalidJitter

/-- A retry policy with its delays, as `RetryPolicy::new` accepts it. -/
structure BackoffPolicy extends RetryPolicy where
  initialDelay : Duration
  maxDelay : Duration
  jitterBasisPoints : ℕ
  initialDelay_pos : 0 < initialDelay.val
  initialDelay_le : initialDelay ≤ maxDelay
  jitter_le : jitterBasisPoints ≤ 10000

namespace BackoffPolicy

def new (maxAttempts : ℕ) (initialDelay maxDelay : Duration) (jitterBasisPoints : ℕ) :
    Except RetryPolicyError BackoffPolicy :=
  if hattempts : maxAttempts = 0 then .error .zeroAttempts
  else if hinitial : initialDelay.val = 0 then .error .zeroInitialDelay
  else if hmax : maxDelay < initialDelay then .error .maxDelayBelowInitial
  else if hjitter : 10000 < jitterBasisPoints then .error .invalidJitter
  else .ok ⟨⟨maxAttempts, Nat.pos_of_ne_zero hattempts⟩, initialDelay, maxDelay, jitterBasisPoints,
    Nat.pos_of_ne_zero hinitial, not_lt.mp hmax, not_lt.mp hjitter⟩

/-- A policy that is accepted has the values it was made of. -/
lemma new_eq_ok {maxAttempts jitterBasisPoints : ℕ} {initialDelay maxDelay : Duration}
    {policy : BackoffPolicy}
    (h : BackoffPolicy.new maxAttempts initialDelay maxDelay jitterBasisPoints = .ok policy) :
    maxAttempts = policy.maxAttempts ∧ initialDelay = policy.initialDelay ∧
      maxDelay = policy.maxDelay ∧ jitterBasisPoints = policy.jitterBasisPoints := by
  unfold BackoffPolicy.new at h
  split_ifs at h
  cases h
  exact ⟨rfl, rfl, rfl, rfl⟩

/-- The policy of a client that sets none. -/
def default : BackoffPolicy :=
  ⟨⟨3, by decide⟩, .saturating (250 * 10 ^ 6), .saturating (5 * 10 ^ 9), 2000, by decide, by decide,
    by decide⟩

variable (policy : BackoffPolicy)

/-- One pass of the loop. -/
def double (delay : Duration) : Duration := min (delay.saturatingMul 2) policy.maxDelay

/-- The loop over the attempts before this one. -/
def doubled : ℕ → Duration → Duration
  | 0, delay => delay
  | passes + 1, delay =>
    if policy.maxDelay ≤ delay then delay else doubled passes (policy.double delay)

/-- The delay after a failed attempt; nothing if a computation overflows or panics. -/
def delayFor (failedAttempt : UInt32) (requestId : BitVec 128) : Option Duration :=
  let delay := policy.doubled (failedAttempt.toNat - 1) policy.initialDelay
  if policy.jitterBasisPoints = 0 ∨ policy.maxDelay ≤ delay then some delay
  else
    let maxJitterNanos := min (delay.val * policy.jitterBasisPoints) (2 ^ 128 - 1) / 10000
    if maxJitterNanos = 0 then some delay
    else do
      let mixed := requestId ^^^ (BitVec.ofNat 128 failedAttempt.toNat * 0x9e3779b9#128)
      guard (maxJitterNanos + 1 < 2 ^ 128)
      let jitter ← durationFromNanosSaturating (mixed.toNat % (maxJitterNanos + 1))
      return min (delay.saturatingAdd jitter) policy.maxDelay

/-! ## The doubled delay -/

variable {policy} {delay : Duration}

lemma le_saturating {nanos : ℕ} (h : delay.val ≤ nanos) : delay ≤ Duration.saturating nanos :=
  le_min h (Nat.le_sub_one_of_lt delay.isLt)

lemma saturating_mono : Monotone Duration.saturating := fun _ _ h => min_le_min_right _ h

lemma le_double (h : delay ≤ policy.maxDelay) : delay ≤ policy.double delay :=
  le_min (le_saturating (Nat.le_mul_of_pos_right _ Nat.two_pos)) h

lemma double_le : policy.double delay ≤ policy.maxDelay := min_le_right _ _

/-- The maximum is its own double. -/
lemma eq_double (h : delay ≤ policy.maxDelay) (hmax : policy.maxDelay ≤ delay) :
    delay = policy.double delay :=
  le_antisymm (le_double h) (double_le.trans hmax)

/-- Another pass of the loop doubles the delay, also when the loop has broken off. -/
lemma doubled_succ (passes : ℕ) (h : delay ≤ policy.maxDelay) :
    policy.doubled (passes + 1) delay = policy.double (policy.doubled passes delay) := by
  induction passes generalizing delay with
  | zero =>
    change (if policy.maxDelay ≤ delay then delay else policy.double delay) = _
    split_ifs with hmax
    · exact eq_double h hmax
    · rfl
  | succ passes ih =>
    change (if policy.maxDelay ≤ delay then delay else policy.doubled (passes + 1) _) =
      policy.double (if policy.maxDelay ≤ delay then delay else _)
    split_ifs with hmax
    · exact eq_double h hmax
    · exact ih double_le

lemma doubled_le (passes : ℕ) (h : delay ≤ policy.maxDelay) :
    policy.doubled passes delay ≤ policy.maxDelay := by
  cases passes with
  | zero => exact h
  | succ passes => exact doubled_succ passes h ▸ double_le

lemma doubled_mono (h : delay ≤ policy.maxDelay) : Monotone (policy.doubled · delay) :=
  monotone_nat_of_le_succ fun passes => doubled_succ passes h ▸ le_double (doubled_le passes h)

/-! ## The jitter -/

lemma durationFromNanosSaturating_eq {nanos : ℕ} (h : nanos < 2 ^ 64 * 10 ^ 9) :
    durationFromNanosSaturating nanos = some ⟨nanos, h⟩ := by
  have hparts : min (nanos / 10 ^ 9) (2 ^ 64 - 1) * 10 ^ 9 + nanos % 10 ^ 9 % 2 ^ 32 = nanos := by
    omega
  simp only [durationFromNanosSaturating, Duration.new, hparts, h, dif_pos]

/-- The product that bounds the jitter fits into 128 bits. -/
lemma jitter_fits (delay : Duration) : delay.val * policy.jitterBasisPoints < 2 ^ 128 :=
  (Nat.mul_le_mul delay.isLt.le policy.jitter_le).trans_lt (by decide)

/-- **The delay is that of the loop or longer, and no longer than that after another pass.** -/
lemma delayFor_between (failedAttempt : UInt32) (requestId : BitVec 128) :
    ∃ delay, policy.delayFor failedAttempt requestId = some delay ∧
      policy.doubled (failedAttempt.toNat - 1) policy.initialDelay ≤ delay ∧
        delay ≤ policy.double (policy.doubled (failedAttempt.toNat - 1) policy.initialDelay) := by
  have hmax := doubled_le (failedAttempt.toNat - 1) policy.initialDelay_le
  unfold delayFor
  generalize policy.doubled (failedAttempt.toNat - 1) policy.initialDelay = delay at hmax ⊢
  have hfits : delay.val * policy.jitterBasisPoints < 2 ^ 128 := jitter_fits delay
  have hcap := Nat.min_eq_left (Nat.le_sub_one_of_lt hfits)
  simp only [hcap]
  generalize hjitter : delay.val * policy.jitterBasisPoints / 10000 = maxJitter
  split_ifs with hplain hnone
  · exact ⟨delay, rfl, le_rfl, le_double hmax⟩
  · exact ⟨delay, rfl, le_rfl, le_double hmax⟩
  -- at most the delay itself is added
  have hle : maxJitter ≤ delay.val := by
    have := Nat.mul_le_mul_left delay.val policy.jitter_le
    omega
  have hlt := delay.isLt
  generalize hmod : BitVec.toNat _ % (maxJitter + 1) = jitter
  have hmost : jitter ≤ maxJitter := hmod ▸ Nat.le_of_lt_succ (Nat.mod_lt _ maxJitter.succ_pos)
  have hguard : maxJitter + 1 < 2 ^ 128 := by omega
  rw [durationFromNanosSaturating_eq (by omega)]
  simp only [guard, hguard, if_true]
  refine ⟨_, rfl, le_min (le_saturating (Nat.le_add_right _ _)) hmax, min_le_min_right _ ?_⟩
  refine saturating_mono (show delay.val + jitter ≤ delay.val * 2 from ?_)
  omega

end BackoffPolicy

/-- **Backoff is bounded and monotone.** For every policy that is accepted and every request, each
delay is computed without an overflow or a panic, the delays are between the initial one and the
maximum, and that after a later attempt is never shorter.

**Proof sketch.** The delay after an attempt is at most the double of the loop's, however large its
jitter is, and the loop of every later attempt has come that far (`doubled_mono`). -/
theorem backoff_bounded_monotone {maxAttempts jitterBasisPoints : ℕ}
    {initialDelay maxDelay : Duration} {policy : BackoffPolicy}
    (hnew : BackoffPolicy.new maxAttempts initialDelay maxDelay jitterBasisPoints = .ok policy)
    (requestId : BitVec 128) (m n : UInt32)
    (hm : 1 ≤ m) (hmn : m ≤ n) : ∃ first second, policy.delayFor m requestId = some first ∧
      policy.delayFor n requestId = some second ∧ initialDelay ≤ first ∧ first ≤ second ∧
      second ≤ maxDelay ∧ ∀ delay : Duration, delay.val * jitterBasisPoints < 2 ^ 128 := by
  obtain ⟨-, rfl, rfl, rfl⟩ := BackoffPolicy.new_eq_ok hnew
  have hloop := BackoffPolicy.doubled_mono policy.initialDelay_le
  obtain ⟨first, hfirst, hlower, hupper⟩ := policy.delayFor_between m requestId
  obtain ⟨second, hsecond, hlower', hupper'⟩ := policy.delayFor_between n requestId
  refine ⟨first, second, hfirst, hsecond, (hloop (Nat.zero_le _)).trans hlower, ?_,
    hupper'.trans BackoffPolicy.double_le, BackoffPolicy.jitter_fits⟩
  rcases eq_or_ne m n with rfl | hne
  · exact (Option.some.inj (hfirst.symm.trans hsecond)).le
  rw [← BackoffPolicy.doubled_succ _ policy.initialDelay_le] at hupper
  refine (hupper.trans (hloop ?_)).trans hlower'
  have hle : m.toNat ≤ n.toNat := hmn
  have hne : m.toNat ≠ n.toNat := fun h => hne (UInt32.toNat_inj.mp h)
  have hpos : 1 ≤ m.toNat := hm
  omega

/-- The first two delays of the policy that is used by default. -/
theorem default_backs_off : ∃ first second, BackoffPolicy.default.delayFor 1 0 = some first ∧
    BackoffPolicy.default.delayFor 2 0 = some second ∧ first ≤ second := by
  have hnew : BackoffPolicy.new 3 (.saturating (250 * 10 ^ 6)) (.saturating (5 * 10 ^ 9)) 2000 =
      .ok .default := rfl
  obtain ⟨first, second, hfirst, hsecond, -, hle, -⟩ :=
    backoff_bounded_monotone hnew 0 1 2 (by decide) (by decide)
  exact ⟨first, second, hfirst, hsecond, hle⟩

end VoxTrader.TInvest
