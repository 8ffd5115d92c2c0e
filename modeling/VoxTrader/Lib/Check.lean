import Mathlib.Logic.Basic
import Mathlib.Tactic.SplitIfs

/-!
# Checks that may stop a computation

Lemmas for computations in `Except` that are sequences of checks: a check either passes, possibly
with a value the later checks use, or stops the whole computation with a reason. The lemmas turn
"the sequence passes" into the conjunction of its steps, so that proofs about a long sequence
never unfold it.

## Main definitions

* `Except.stopIf` — stop with a reason when a condition holds.
* `Except.orStop` — the value of an option, or stop.
* `Text.isBlank` — a text of white space.

## Main results

* `Except.seq_eq_ok`, `Except.seq_eq_error` — a sequence passes iff its first step passes and the
  rest does, and stops where one of them does.
* `Except.stopIf_eq_ok`, `Except.orStop_eq_ok`, `Except.ite_eq_ok` — when the single steps pass.
* `Except.foldlM_rel`, `Except.foldlM_add` — what a chain of steps does, from what one step does.
-/

/-- Equal pairs of values have equal components. -/
lemma Option.pair_inj {α β : Type*} {a a' : α} {b b' : β} (h : some (a, b) = some (a', b')) :
    a = a' ∧ b = b' := Prod.mk.inj (some.inj h)

namespace Except

variable {ε α β : Type}

/-- Equal pairs of results have equal components. -/
lemma pair_inj {a a' : α} {b b' : β} (h : (.ok (a, b) : Except ε (α × β)) = .ok (a', b')) :
    a = a' ∧ b = b' := Prod.mk.inj (ok.inj h)

/-- Stop with `e` when `c` holds. -/
def stopIf (c : Prop) [Decidable c] (e : ε) : Except ε Unit :=
  if c then .error e else .ok ()

/-- The value of `x`, or stop with `e`. -/
def orStop (x : Option α) (e : ε) : Except ε α :=
  match x with
  | some a => .ok a
  | none => .error e

variable {first : Except ε α} {rest : α → Except ε β} {e : ε} {c : Prop} {e' : ε} {x : Except ε α}
  {a : α} {f : β → α → Except ε β} {l : List α}

/-- A sequence of two steps passes with `result` iff the first passes with some value from which
the second passes with `result`. -/
@[simp] lemma seq_eq_ok {result : β} :
    (first >>= rest) = .ok result ↔ ∃ a, first = .ok a ∧ rest a = .ok result := by
  constructor
  · intro h
    rcases first with e | a
    · exact absurd h (by intro h; cases h)
    · exact ⟨a, rfl, h⟩
  · rintro ⟨a, rfl, h⟩
    exact h

/-- A sequence stops where its first step does, or behind it. -/
lemma seq_eq_error :
    (first >>= rest) = .error e ↔ first = .error e ∨ ∃ a, first = .ok a ∧ rest a = .error e := by
  rcases first with e' | a
  · exact ⟨fun h => .inl (congrArg Except.error (error.inj h)), fun h => by
      rcases h with h | ⟨a, h, -⟩
      · exact congrArg Except.error (error.inj h)
      · cases h⟩
  · exact ⟨fun h => .inr ⟨a, rfl, h⟩, fun h => by
      rcases h with h | ⟨b, h, hrest⟩
      · cases h
      · cases h
        exact hrest⟩

/-- When the first step yields no value, the sequence passes iff both steps do. -/
@[simp] lemma exists_unit_ok {check : Except ε Unit} {p : Prop} :
    (∃ u, check = .ok u ∧ p) ↔ check = .ok () ∧ p :=
  ⟨fun ⟨(), h⟩ => h, fun h => ⟨(), h⟩⟩

/-- The check passes iff the condition fails. -/
@[simp] lemma stopIf_eq_ok [Decidable c] {u : Unit} : stopIf c e = .ok u ↔ ¬ c := by
  unfold stopIf
  split_ifs with h <;> simp [h]

/-- The check stops iff the condition holds. -/
lemma stopIf_eq_error [Decidable c] : stopIf c e = .error e' ↔ c ∧ e = e' := by
  unfold stopIf
  split_ifs with h <;> simp [h]

/-- An option stops the computation iff it has no value. -/
lemma orStop_eq_error {x : Option α} : orStop x e = .error e' ↔ x = none ∧ e = e' := by
  cases x <;> simp [orStop]

/-- An option's value is passed on iff there is one. -/
@[simp] lemma orStop_eq_ok {x : Option α} : orStop x e = .ok a ↔ x = some a := by
  cases x <;> simp [orStop]

/-- Renaming the reason for a stop does not change what passes. -/
@[simp] lemma mapError_eq_ok {ε' : Type} {f : ε → ε'} : x.mapError f = .ok a ↔ x = .ok a := by
  cases x <;> simp [Except.mapError]

/-- A step whose value is only changed passes when the step does. -/
@[simp] lemma map_eq_ok {f : α → β} {b : β} : x.map f = .ok b ↔ ∃ a, x = .ok a ∧ f a = b := by
  cases x <;> simp [Except.map]

/-- A value as an option. -/
lemma toOption_eq_some : x.toOption = some a ↔ x = .ok a := by
  cases x <;> simp [Except.toOption]

/-- A check made only under a condition passes iff it passes whenever the condition holds. -/
lemma ite_eq_ok [Decidable c] {x : Except ε Unit} :
    (if c then x else .ok ()) = .ok () ↔ (c → x = .ok ()) := by
  split_ifs with h <;> simp [h]

/-- A check of every element of a list passes iff it passes on each. -/
lemma forM_eq_ok {check : α → Except ε Unit} :
    l.forM check = .ok () ↔ ∀ a ∈ l, check a = .ok () := by
  induction l with
  | nil => exact ⟨fun _ _ h => absurd h List.not_mem_nil, fun _ => rfl⟩
  | cons a l ih =>
    have hcons : (a :: l).forM check = (check a >>= fun _ => l.forM check) := rfl
    rw [hcons, seq_eq_ok, exists_unit_ok, ih, List.forall_mem_cons]

/-- What one step of a chain does to its state, a whole chain that passes does, for anything that
holds of no step and of two steps in a row. -/
lemma foldlM_rel {R : β → β → Prop} (hrefl : ∀ b, R b b) (htrans : ∀ b c d, R b c → R c d → R b d)
    (hf : ∀ b a b', f b a = .ok b' → R b b') : ∀ {b b' : β}, l.foldlM f b = .ok b' → R b b' := by
  induction l with
  | nil =>
    intro b b' h
    cases h
    exact hrefl b
  | cons a l ih =>
    intro b b' h
    rw [List.foldlM_cons, seq_eq_ok] at h
    obtain ⟨c, hfirst, hrest⟩ := h
    exact htrans b c b' (hf b a c hfirst) (ih hrest)

/-- A chain of steps that each add one element with `A` adds the whole list. -/
lemma foldlM_add {A : β → List α → β} (hnil : ∀ b, A b [] = b)
    (hadd : ∀ b l l', A (A b l) l' = A b (l ++ l')) {P : α → Prop}
    (hf : ∀ b a b', f b a = .ok b' → b' = A b [a] ∧ P a) :
    ∀ {b b' : β}, l.foldlM f b = .ok b' → b' = A b l ∧ ∀ a ∈ l, P a := by
  induction l with
  | nil => exact fun h => ⟨(ok.inj h).symm.trans (hnil _).symm, by simp⟩
  | cons a l ih =>
    intro b b' h
    rw [List.foldlM_cons, seq_eq_ok] at h
    obtain ⟨c, hfirst, hrest⟩ := h
    obtain ⟨rfl, ha⟩ := hf b a c hfirst
    obtain ⟨rfl, hl⟩ := ih hrest
    exact ⟨hadd b [a] l, List.forall_mem_cons.mpr ⟨ha, hl⟩⟩

end Except

/-! ## Text -/

namespace Text

/-- White space in the sense of Unicode. -/
def isWhitespace (c : Char) : Bool :=
  let n := c.toNat
  (9 ≤ n && n ≤ 13) || n == 0x20 || n == 0x85 || n == 0xA0 || n == 0x1680 ||
    (0x2000 ≤ n && n ≤ 0x200A) || n == 0x2028 || n == 0x2029 || n == 0x202F || n == 0x205F ||
    n == 0x3000

/-- Nothing is left of the text when it is trimmed. -/
def isBlank (value : String) : Bool := value.toList.all isWhitespace

end Text
