import Mathlib.Logic.Basic

/-!
# Histories of transactions

A store whose calls are transactions: a call either fails, and is rolled back, or succeeds with a
result and a next state. Calls of any number of clients, in any interleaving, are then one list of
calls, and what holds along every interleaving is what holds along every list.

## Main definitions

* `Transactions.after`, `Transactions.run` — the state after a call, and after a list of calls.
* `Transactions.returned` — the result of a call that succeeds.

## Main results

* `Transactions.run_invariant` — what every successful call keeps, every history keeps.
* `Transactions.run_rel` — what every successful call does, every history does, for anything that
  holds of no call and of two in a row.
-/

namespace Transactions

variable {σ κ ε ρ : Type} (step : σ → κ → Except ε (ρ × σ))

/-- The state after a call; a call that fails is rolled back. -/
def after (s : σ) (call : κ) : σ :=
  match step s call with
  | .ok (_, s') => s'
  | .error _ => s

/-- The result of a call, if it succeeds. -/
def returned (s : σ) (call : κ) : Option ρ :=
  match step s call with
  | .ok (r, _) => some r
  | .error _ => none

/-- The state after a list of calls. -/
def run (s : σ) (calls : List κ) : σ := calls.foldl (after step) s

variable {step}

variable {s s' : σ} {call : κ} {r : ρ} {e : ε}

/-- A call that succeeds leads to its next state. -/
lemma after_of_ok (h : step s call = .ok (r, s')) : after step s call = s' := by
  rw [after, h]

/-- A call that fails leaves the state. -/
lemma after_of_error (h : step s call = .error e) : after step s call = s := by
  rw [after, h]

/-- A call that succeeds returns its result. -/
lemma returned_of_ok (h : step s call = .ok (r, s')) : returned step s call = some r := by
  rw [returned, h]

/-- A call that fails returns nothing. -/
lemma returned_of_error (h : step s call = .error e) : returned step s call = none := by
  rw [returned, h]

/-- Without a call there is no change. -/
@[simp] lemma run_nil (s : σ) : run step s [] = s := rfl

/-- The first call comes first. -/
@[simp] lemma run_cons (s : σ) (call : κ) (calls : List κ) :
    run step s (call :: calls) = run step (after step s call) calls := rfl

/-- Two lists of calls, one after the other. -/
lemma run_append (s : σ) (before later : List κ) :
    run step s (before ++ later) = run step (run step s before) later :=
  List.foldl_append

/-- **What every successful call does, every history does**, for anything that holds of no call and
of two in a row. -/
lemma run_rel {R : σ → σ → Prop} (hrefl : ∀ s, R s s) (htrans : ∀ s t u, R s t → R t u → R s u)
    (hstep : ∀ s call r s', step s call = .ok (r, s') → R s s') (s : σ) (calls : List κ) :
    R s (run step s calls) := by
  induction calls generalizing s with
  | nil => exact hrefl s
  | cons call calls ih =>
    refine htrans _ _ _ ?_ (ih _)
    rcases h : step s call with e | ⟨r, s'⟩
    · rw [after_of_error h]
      exact hrefl s
    · rw [after_of_ok h]
      exact hstep s call r s' h

/-- **What every successful call keeps, every history keeps.** -/
lemma run_invariant {P : σ → Prop} (hstep : ∀ s call r s', P s → step s call = .ok (r, s') → P s')
    (h : P s) (calls : List κ) : P (run step s calls) :=
  run_rel (R := fun s s' => P s → P s') (fun _ => id) (fun _ _ _ hst htu => htu ∘ hst)
    (fun s call r s' hok hs => hstep s call r s' hs hok) s calls h

end Transactions
