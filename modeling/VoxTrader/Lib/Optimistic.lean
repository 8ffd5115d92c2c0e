import Mathlib.Data.List.Nodup

/-!
# Calls that read first and write later

A family of calls shares a state. Each call reads the state once and either finishes with a
result or keeps a plan, and a call with a plan later writes it. Reads and writes are atomic, and
the calls are interleaved in any way, so that a call may write a plan made from a state that is
gone.

A call that writes takes effect at its write, one that does not at its read. When every write
does what the whole call would do at that moment, the calls are linearizable: the interleaved run
is the serial run in the order in which the calls took effect.

## Main definitions

* `Optimistic.Call` — a call, by its two parts; `Call.atomic` — both without interruption.
* `Optimistic.Config`, `Optimistic.step`, `Optimistic.run` — interleaved execution.
* `Optimistic.Fresh` — the write of a plan does what the whole call would do now.
* `Optimistic.serial` — the calls one after the other.

## Main results

* `Optimistic.step_shared` — one step leaves the state or takes the effect of its call.
* `Optimistic.linearizable` — an interleaved run with fresh writes is a serial run, with the same
  successful results.
-/

namespace Optimistic

open Function (update_self update_of_ne)

variable {σ ρ ι : Type}

/-- A call on a shared state `σ` with results in `ρ`. -/
structure Call (σ ρ : Type) where
  /-- What the call keeps between its read and its write. -/
  Plan : Type
  /-- Read the state: finish with a result, or keep a plan. -/
  read : σ → ρ ⊕ Plan
  /-- Write a plan into the state. -/
  write : Plan → σ → ρ × σ

/-- The whole call, with nothing between its parts. -/
def Call.atomic (c : Call σ ρ) (s : σ) : ρ × σ :=
  match c.read s with
  | .inl result => (result, s)
  | .inr plan => c.write plan s

/-- How far a call has come. -/
inductive Phase (c : Call σ ρ)
  | idle
  | planned (plan : c.Plan)
  | done (result : ρ)

/-- The shared state, how far each call has come, and the calls that took effect, in order. -/
structure Config (calls : ι → Call σ ρ) where
  shared : σ
  phase : (i : ι) → Phase (calls i)
  order : List ι

variable {calls : ι → Call σ ρ}

/-- No call has started. -/
def start (calls : ι → Call σ ρ) (s : σ) : Config calls := ⟨s, fun _ => .idle, []⟩

section Step

variable [DecidableEq ι]

/-- Call `i` takes effect with `result`, leaving the state `s`. -/
def finish (i : ι) (cfg : Config calls) (result : ρ × σ) : Config calls :=
  ⟨result.2, Function.update cfg.phase i (.done result.1), cfg.order ++ [i]⟩

/-- One step of call `i`: its read, its write, or nothing when it is done. -/
def step (cfg : Config calls) (i : ι) : Config calls :=
  match cfg.phase i with
  | .idle =>
    match (calls i).read cfg.shared with
    | .inl result => finish i cfg (result, cfg.shared)
    | .inr plan => { cfg with phase := Function.update cfg.phase i (.planned plan) }
  | .planned plan => finish i cfg ((calls i).write plan cfg.shared)
  | .done _ => cfg

/-- The steps of a schedule. -/
def run (cfg : Config calls) (schedule : List ι) : Config calls := schedule.foldl step cfg

/-- The step of call `i` does what the whole call would do: it leaves the same state, and if it
succeeds it has the same result. -/
def Fresh (ok : ρ → Prop) (cfg : Config calls) (i : ι) : Prop :=
  ∀ plan, cfg.phase i = .planned plan →
    ((calls i).write plan cfg.shared).2 = ((calls i).atomic cfg.shared).2 ∧
      (ok ((calls i).write plan cfg.shared).1 →
        ((calls i).atomic cfg.shared).1 = ((calls i).write plan cfg.shared).1)

/-- Every step of the schedule meets `good` in the configuration it is taken in. -/
def AllSteps (good : Config calls → ι → Prop) : Config calls → List ι → Prop
  | _, [] => True
  | cfg, i :: schedule => good cfg i ∧ AllSteps good (step cfg i) schedule

/-! ## Serial runs -/

/-- The calls of `order`, one after the other: their results and the state they leave. -/
def serial (calls : ι → Call σ ρ) (s : σ) : List ι → List (ι × ρ) × σ
  | [] => ([], s)
  | i :: order =>
    let (result, s') := (calls i).atomic s
    let (results, s'') := serial calls s' order
    ((i, result) :: results, s'')

omit [DecidableEq ι] in
/-- A serial run in two parts. -/
lemma serial_append (s : σ) (order order' : List ι) : serial calls s (order ++ order') =
      ((serial calls s order).1 ++ (serial calls (serial calls s order).2 order').1,
        (serial calls (serial calls s order).2 order').2) := by
  induction order generalizing s with
  | nil => rfl
  | cons i order ih => simp only [List.cons_append, serial, ih]

/-! ## One step -/

variable {s : σ} {ok : ρ → Prop} {cfg : Config calls} {i : ι}

/-- A step that is fresh leaves the state or takes the effect of its whole call. -/
lemma step_shared (hfresh : Fresh ok cfg i) : (step cfg i).shared = cfg.shared ∨
      (step cfg i).shared = ((calls i).atomic cfg.shared).2 := by
  unfold step
  split
  next hphase =>
    split
    all_goals exact .inl rfl
  next plan hphase => exact .inr (hfresh plan hphase).1
  next => exact .inl rfl

/-- The interleaved run so far is the serial run of the calls that took effect: it has left the
same state, each call took effect at most once and exactly when it is done, and the results of
the calls that succeeded are the serial ones. -/
structure Linearized (ok : ρ → Prop) (s : σ) (cfg : Config calls) : Prop where
  shared : cfg.shared = (serial calls s cfg.order).2
  nodup : cfg.order.Nodup
  done_iff : ∀ i, i ∈ cfg.order ↔ ∃ result, cfg.phase i = .done result
  result : ∀ i result, cfg.phase i = .done result → ok result →
    (i, result) ∈ (serial calls s cfg.order).1

/-- When a call takes effect as its whole would, the run stays linearized. -/
lemma Linearized.finish {result : ρ × σ} (h : Linearized ok s cfg)
    (hnot : ∀ r, cfg.phase i ≠ .done r) (hstate : result.2 = ((calls i).atomic cfg.shared).2)
    (hresult : ok result.1 → ((calls i).atomic cfg.shared).1 = result.1) :
    Linearized ok s (finish i cfg result) := by
  have hni : i ∉ cfg.order := by
    rw [h.done_iff]
    rintro ⟨r, hr⟩
    exact hnot r hr
  have hserial : serial calls s (cfg.order ++ [i]) =
      ((serial calls s cfg.order).1 ++ [(i, ((calls i).atomic cfg.shared).1)],
        ((calls i).atomic cfg.shared).2) := by
    rw [serial_append, ← h.shared]
    rfl
  refine ⟨?_, ?_, ?_, ?_⟩
  · show result.2 = (serial calls s (cfg.order ++ [i])).2
    rw [hserial, hstate]
  · show (cfg.order ++ [i]).Nodup
    rw [List.nodup_append]
    refine ⟨h.nodup, List.nodup_singleton _, ?_⟩
    rintro a ha b hb rfl
    rw [List.mem_singleton] at hb
    exact hni (hb ▸ ha)
  · intro j
    show j ∈ cfg.order ++ [i] ↔ ∃ r, Function.update cfg.phase i (.done result.1) j = .done r
    by_cases hj : j = i
    · subst hj
      rw [update_self]
      simp
    · rw [update_of_ne hj]
      simp [hj, h.done_iff]
  · intro j r hj hok
    show (j, r) ∈ (serial calls s (cfg.order ++ [i])).1
    rw [hserial]
    have hj : Function.update cfg.phase i (.done result.1) j = .done r := hj
    by_cases hji : j = i
    · subst hji
      rw [update_self, Phase.done.injEq] at hj
      subst hj
      rw [hresult hok]
      simp
    · rw [update_of_ne hji] at hj
      exact List.mem_append_left _ (h.result j r hj hok)

/-- A fresh step keeps the run linearized. -/
lemma Linearized.step (h : Linearized ok s cfg) (hfresh : Fresh ok cfg i) :
    Linearized ok s (step cfg i) := by
  unfold Optimistic.step
  split
  next hphase =>
    have hnot : ∀ r, cfg.phase i ≠ .done r := fun r hr => by rw [hphase] at hr; cases hr
    split
    next result hread =>
      have hatomic : (calls i).atomic cfg.shared = (result, cfg.shared) := by
        rw [Call.atomic, hread]
      exact h.finish hnot (by rw [hatomic]) (fun _ => by rw [hatomic])
    next plan hread =>
      -- a read that keeps a plan changes nothing anyone else can see
      refine ⟨h.shared, h.nodup, ?_, ?_⟩
      · intro j
        show j ∈ cfg.order ↔ ∃ r, Function.update cfg.phase i (.planned plan) j = .done r
        by_cases hj : j = i
        · subst hj
          rw [update_self, h.done_iff, hphase]
          simp
        · rw [update_of_ne hj, h.done_iff]
      · intro j r hj hok
        have hj : Function.update cfg.phase i (.planned plan) j = .done r := hj
        by_cases hji : j = i
        · subst hji
          rw [update_self] at hj
          cases hj
        · rw [update_of_ne hji] at hj
          exact h.result j r hj hok
  next plan hphase =>
    have hnot : ∀ r, cfg.phase i ≠ .done r := fun r hr => by rw [hphase] at hr; cases hr
    exact h.finish hnot (hfresh plan hphase).1 (hfresh plan hphase).2
  next => exact h

/-- **Linearizability.** An interleaved run in which every write is fresh is the serial run of the
calls in the order in which they took effect. -/
theorem linearizable {schedule : List ι} :
    ∀ {cfg : Config calls}, Linearized ok s cfg → AllSteps (Fresh ok) cfg schedule →
      Linearized ok s (run cfg schedule) := by
  induction schedule with
  | nil => exact fun h _ => h
  | cons i schedule ih => exact fun h hfresh => ih (h.step hfresh.1) hfresh.2

omit [DecidableEq ι] in
/-- At the start the run is linearized. -/
lemma linearized_start (ok : ρ → Prop) (s : σ) : Linearized ok s (start calls s) where
  shared := rfl
  nodup := List.nodup_nil
  done_iff i := by simp [start]
  result i r h := by cases h

end Step

end Optimistic
