import Mathlib.Data.Nat.Notation

/-!
# Identities from one supply

Several parties draw identities from one supply, which never gives the same one twice, keep them
for a while and use each at most once.

## Main definitions

* `Supply` — what is drawn is kept by one party, and was not used.

## Main results

* `Supply.draw`, `Supply.use`, `Supply.mono` — what drawing, using and forgetting do.
-/

/-- The supply has given out the identities below `next`; `kept` says which of them a party keeps,
`used` which were used. -/
structure Supply (next : ℕ) (kept : ℕ → ℕ → Prop) (used : ℕ → Prop) : Prop where
  kept_lt : ∀ {who n}, kept who n → n < next
  used_lt : ∀ {n}, used n → n < next
  apart : ∀ {who who' n}, kept who n → kept who' n → who = who'
  unused : ∀ {who n}, kept who n → ¬ used n

namespace Supply

variable {next : ℕ} {kept kept' : ℕ → ℕ → Prop} {used used' : ℕ → Prop} {who : ℕ}

/-- Forgetting what is kept, or that something was used. -/
lemma mono (h : Supply next kept used) (hkept : ∀ who n, kept' who n → kept who n)
    (hused : ∀ n, used' n → used n) : Supply next kept' used' where
  kept_lt hn := h.kept_lt (hkept _ _ hn)
  used_lt hn := h.used_lt (hused _ hn)
  apart hn hn' := h.apart (hkept _ _ hn) (hkept _ _ hn')
  unused hn hu := h.unused (hkept _ _ hn) (hused _ hu)

/-- Drawing an identity. -/
lemma draw (h : Supply next kept used)
    (hkept : ∀ other n, kept' other n → kept other n ∨ n = next ∧ other = who)
    (hused : ∀ n, used' n → used n) : Supply (next + 1) kept' used' := by
  constructor
  · intro other n hn
    rcases hkept other n hn with hold | ⟨rfl, -⟩
    · exact Nat.lt_succ_of_lt (h.kept_lt hold)
    · exact Nat.lt_succ_self _
  · exact fun hn => Nat.lt_succ_of_lt (h.used_lt (hused _ hn))
  · intro other other' n hn hn'
    rcases hkept other n hn with hold | ⟨rfl, rfl⟩ <;>
      rcases hkept other' n hn' with hold' | ⟨heq, rfl⟩
    · exact h.apart hold hold'
    · exact absurd (h.kept_lt hold) (heq ▸ Nat.lt_irrefl _)
    · exact absurd (h.kept_lt hold') (Nat.lt_irrefl _)
    · rfl
  · intro other n hn hu
    rcases hkept other n hn with hold | ⟨rfl, -⟩
    · exact h.unused hold (hused _ hu)
    · exact Nat.lt_irrefl _ (h.used_lt (hused _ hu))

/-- Using an identity, which is not kept any longer. -/
lemma use (h : Supply next kept used) {n : ℕ} (hn : kept who n)
    (hkept : ∀ other m, kept' other m → kept other m) (hgone : ¬ kept' who n)
    (hused : ∀ m, used' m → used m ∨ m = n) : Supply next kept' used' := by
  constructor
  · exact fun hm => h.kept_lt (hkept _ _ hm)
  · intro m hm
    rcases hused m hm with hold | rfl
    · exact h.used_lt hold
    · exact h.kept_lt hn
  · exact fun hm hm' => h.apart (hkept _ _ hm) (hkept _ _ hm')
  · intro other m hm hu
    rcases hused m hu with hold | rfl
    · exact h.unused (hkept _ _ hm) hold
    · exact hgone (h.apart (hkept _ _ hm) hn ▸ hm)

end Supply
