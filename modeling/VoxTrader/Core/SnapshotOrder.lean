import VoxTrader.Core.ExposureFence

/-!
# The order in which reports are applied

A coordinator reconciles under a lock, and gives the lock back before it applies the report. So
the reconciliations of a coordinator are in order, by the times at which they took the lock, and
no read of the broker of a later one comes before a read of an earlier one. The reports need not
be applied in that order: nothing keeps a process with a finished report from waiting until a
later reconciliation is through.

## Main definitions

* `refreshDiscipline` — reports are applied by a process that has committed its reconciliation.
* `beganAt` — when a process took the lock last.
* `appliedStamps` — the times at which the applied reconciliations began.
* `overtaken` — another reconciliation was committed since.
* `appliedInTime` — a report is applied before a later reconciliation is committed.

## Main results

* `refresh_job` — every job follows the discipline.
* `reports_applied_in_order` — when reports are applied in time, they are applied in the order of
  their reconciliations.
* `older_report_applied_last` — otherwise an older report may be applied last.
-/

namespace VoxTrader.Core

open VoxTrader.Runtime VoxTrader.Risk Process System

/-! ## The course of a reconciliation -/

/-- The operation writes a reservation. -/
def AdapterOp.updatesReservation : AdapterOp → Bool
  | store (.updateReservation ..) => true
  | _ => false

/-- How far a process has come with a reconciliation: it has begun none, it holds or held the lock
for one, or it has committed that one. -/
inductive Refresh
  | dispatching
  | away
  | begun
  | committed
deriving DecidableEq

namespace Refresh

/-- What a job begins with. -/
def first (job : Job) : Refresh := if job.dispatches.isSome then .dispatching else .away

/-- After taking the lock. -/
def lock : Refresh → Refresh
  | dispatching => dispatching
  | _ => begun

/-- After a commit. -/
def commit : Refresh → Refresh
  | begun => committed
  | g => g

end Refresh

/-- The operation takes the lock of the coordinator. -/
def takesLock {R : Interface} : (full R).Op → Bool
  | .inl (.inl (.inl (.volatile .lockReconciliation))) => true
  | _ => false

/-- A reconciliation was committed. -/
def commits {R : Interface} : (op : (full R).Op) → (full R).Res op → Bool
  | .inl (.inr (.commitReconciliation ..)), r => (r : Except StoreError Unit).isOk
  | _, _ => false

/-- The discipline: the snapshot is written by a process that has committed its reconciliation, and
reservations by such a process or by a dispatch. -/
def refreshDiscipline : Discipline (full adapterOps) Refresh where
  pre op g :=
    match op with
    | .inl (.inl (.inr op)) => (AdapterOp.writesSnapshot op = true → g = .committed) ∧
        (AdapterOp.updatesReservation op = true → g = .committed ∨ g = .dispatching)
    | _ => True
  next op r g := if takesLock op then g.lock else if commits op r then g.commit else g

/-- The operations every part performs keep what taking the lock keeps. -/
lemma refresh_base {P : Refresh → Prop} (hP : ∀ g, P g → P g.lock) :
    refreshDiscipline.left.left.left.Closed P := fun op g hg =>
  ⟨trivial, fun r => by
    cases op with
    | volatile op =>
      cases op with
      | lockReconciliation => exact hP g hg
      | _ => exact hg
    | _ => exact hg⟩

lemma refresh_serving : refreshDiscipline.left.left.left.Closed (· ≠ .dispatching) :=
  refresh_base fun g hg => by cases g <;> first | exact absurd rfl hg | exact Refresh.noConfusion

lemma refresh_dispatching : refreshDiscipline.left.left.left.Closed (· = .dispatching) :=
  refresh_base fun _ hg => by rw [hg]; rfl

/-- The process has taken the lock. -/
def Refresh.Locked (g : Refresh) : Prop := g = .begun ∨ g = .committed

lemma refresh_locked : refreshDiscipline.left.left.left.Closed Refresh.Locked :=
  refresh_base fun g hg => by rcases hg with rfl | rfl <;> exact .inl rfl

lemma Refresh.Locked.serving {g : Refresh} (h : g.Locked) : g ≠ .dispatching := by
  rcases h with rfl | rfl <;> exact Refresh.noConfusion

/-- **A reconciliation that reports was committed.** -/
lemma refresh_reconcile {scope : RuntimeScope} {epoch : ℕ} {g : Refresh} (hg : g.Locked) :
    Follows refreshDiscipline.left (fun r g' =>
      match r with
      | .ok _ => g' = .committed
      | .error _ => g' ≠ .dispatching) (Runtime.reconcile scope epoch).run g := by
  refine (follows_baseExcept.mpr (keeps_of_closed refresh_locked g hg)).bindExcept
    (fun _ _ hg₁ => hg₁.serving) fun _ g₁ hg₁ => ?_
  refine follows_bindExcept (follows_orFail.mpr ⟨trivial, fun orders => ?_⟩)
  cases orders with
  | error => exact hg₁.serving
  | ok =>
    refine (follows_baseExcept.mpr (keeps_of_closed refresh_locked g₁ hg₁)).bindExcept
      (fun _ _ hg₂ => hg₂.serving) fun _ g₂ hg₂ => ?_
    refine follows_bindExcept (follows_orFail.mpr ⟨trivial, fun r => ?_⟩)
    cases r with
    | error => exact hg₂.serving
    | ok u =>
      have hcommitted : g₂.commit = .committed := by rcases hg₂ with rfl | rfl <;> rfl
      -- compacting the history is one operation of the store
      refine follows_bindExcept (follows_baseExcept.mpr
        (follows_orFail.mpr ⟨trivial, fun compacted => ?_⟩))
      cases compacted with
      | error => exact hcommitted.trans_ne Refresh.noConfusion
      | ok => exact hcommitted

/-! ## The jobs -/

/-- Applying a report leaves the reconciliation committed. -/
lemma refresh_apply (adapter : RiskAdapter) (report : ReconciliationReport) :
    Keeps refreshDiscipline.left.left (· = .committed) (adapter.port.reconcile report).run := by
  refine (adapter.port_quiet.reconcile report).keeps fun op hop g hg => ?_
  subst hg
  rcases op with op | op
  · cases op with
    | external => exact ⟨trivial, fun _ => rfl⟩
    | volatile op | store op => exact absurd hop not_false
  · exact ⟨⟨fun _ => rfl, fun _ => .inl rfl⟩, fun _ => rfl⟩

/-- A dispatch does not write the snapshot. -/
def withoutSnapshot : (withRisk adapterOps).Op → Prop
  | .inl _ => True
  | .inr op => AdapterOp.writesSnapshot op = false

lemma withoutSnapshot_adapterFree : AdapterFree withoutSnapshot where
  ask _ _ := trivial
  adapter op hop := by
    cases op with
    | writeSnapshot => cases hop
    | _ => rfl
  decide _ _ := rfl
  approve _ _ _ _ _ := rfl
  journal op hop := by
    cases op with
    | writeSnapshot => cases hop
    | _ => rfl

lemma refresh_port {α : Type} {x : Process (withRisk adapterOps) α}
    (hx : x.Performs withoutSnapshot) :
    Keeps refreshDiscipline.left.left (· = .dispatching) x := by
  refine hx.keeps fun op hop g hg => ?_
  subst hg
  rcases op with op | op
  · exact refresh_dispatching op _ rfl
  · refine ⟨⟨fun hwrites => ?_, fun _ => .inr rfl⟩, fun _ => rfl⟩
    cases hwrites.symm.trans hop

/-- The jobs that dispatch nothing. -/
lemma refresh_service (adapter : RiskAdapter) (scope : RuntimeScope) :
    ServiceRule refreshDiscipline.left adapter.port scope (· ≠ .dispatching) Refresh.Locked
      (fun _ g => g = .committed) where
  base := refresh_serving
  locked_base := refresh_locked
  locked_serves _ hg := hg.serving
  lock g hg := ⟨trivial, fun _ => by
    cases g with
    | dispatching => exact absurd rfl hg
    | _ => exact .inl rfl⟩
  holds _ op g hop hg := by
    rcases hop with rfl | rfl <;> exact ⟨trivial, fun _ => hg⟩
  serves _ _ hg := hg.trans_ne Refresh.noConfusion
  reconcile _ _ hg := refresh_reconcile hg
  apply report g hg := (refresh_apply adapter report g hg).mono fun _ _ hg' =>
    hg'.trans_ne Refresh.noConfusion

/-- **Every job applies only reports of reconciliations it has committed.** -/
theorem refresh_job (adapter : RiskAdapter) (scope : RuntimeScope) (job : Job) :
    Follows refreshDiscipline (fun _ _ => True) (job.program adapter.port scope) (.first job) := by
  cases job with
  | dispatch =>
    exact follows_bind.mpr (((DispatchCourse.constant (.of_closed refresh_dispatching)
      (fun _ _ hg => ⟨trivial, fun _ => hg⟩) (fun _ _ => keeps_of_closed refresh_dispatching)
      (refresh_port (RiskAdapter.performs_admitCommand withoutSnapshot_adapterFree adapter _ _ _))
      (fun _ _ => refresh_port (RiskAdapter.performs_validateBeforeDispatch
        withoutSnapshot_adapterFree adapter _ _ _))
      fun _ => refresh_port (RiskAdapter.performs_recordDispatchOutcome
        withoutSnapshot_adapterFree.toAdapterRest _ _)).follows refresh_dispatching rfl).mono
          fun _ _ _ => trivial)
  | _ => exact (refresh_service adapter scope).follows rfl Refresh.noConfusion

/-! ## The history of a coordinator -/

/-- Applying a report writes the snapshot; and a process that is no dispatch writes reservations for
that purpose only. -/
def appliesReport (site : Site) : (full adapterOps).Op → Bool
  | .inl (.inl (.inr op)) => AdapterOp.writesSnapshot op ||
      (site.job.dispatches.isNone && AdapterOp.updatesReservation op)
  | _ => false

section History

variable {side : RiskSide adapterOps} {scope : RuntimeScope} {port : RiskPort adapterOps}

/-- The number of operations after which a process has taken the lock last. -/
def beganAt (who : ℕ) : List (runtimeSystem side scope port).Performed → Option ℕ
  | [] => none
  | e :: older =>
    if e.who = who ∧ takesLock e.op = true then some older.length else beganAt who older

/-- When the reconciliations began whose reports were applied by processes of coordinator `k`, the
last one first. -/
def appliedStamps (k : ℕ) : List (runtimeSystem side scope port).Performed → List (Option ℕ)
  | [] => []
  | e :: older =>
    if Site.coordinator e.site = k ∧ appliesReport e.site e.op = true then
      beganAt e.who older :: appliedStamps k older
    else appliedStamps k older

/-- Another process of coordinator `k` has committed a reconciliation since process `who` has taken
the lock. -/
def overtaken (k who : ℕ) : List (runtimeSystem side scope port).Performed → Bool
  | [] => false
  | e :: older =>
    if e.who = who then !(takesLock e.op) && overtaken k who older
    else (decide (Site.coordinator e.site = k) && commits e.op e.res) || overtaken k who older

variable {k who other : ℕ} {site : Site}
  {trace : List (runtimeSystem side scope port).Performed}

lemma beganAt_lt {n : ℕ} (h : beganAt who trace = some n) : n < trace.length := by
  induction trace with
  | nil => cases h
  | cons e older ih =>
    simp only [beganAt] at h
    split_ifs at h
    · cases h
      exact Nat.lt_succ_self _
    · exact Nat.lt_succ_of_lt (ih h)

/-- The course of a process. -/
def refreshAt (who : ℕ) (site : Site) (trace : List (runtimeSystem side scope port).Performed) :
    Refresh :=
  ghostAt refreshDiscipline (.first site.job) who trace

lemma refreshAt_self {site' : Site} {op : (full adapterOps).Op} {r : (full adapterOps).Res op} :
    refreshAt who site (⟨who, site', op, r⟩ :: trace) =
      refreshDiscipline.next op r (refreshAt who site trace) :=
  ghostAt_cons_self

lemma refreshAt_of_ne {e : (runtimeSystem side scope port).Performed} (h : e.who ≠ who) :
    refreshAt who site (e :: trace) = refreshAt who site trace :=
  ghostAt_cons_of_ne h

/-- A process that is no dispatch never becomes one. -/
lemma refreshAt_serving (h : site.job.dispatches = none) :
    refreshAt who site trace ≠ .dispatching := by
  induction trace with
  | nil =>
    change Refresh.first site.job ≠ .dispatching
    rw [Refresh.first, h]
    exact Refresh.noConfusion
  | cons e older ih =>
    by_cases hwho : e.who = who
    · obtain ⟨who', site', op, r⟩ := e
      change Site at site'
      subst hwho
      rw [refreshAt_self]
      simp only [refreshDiscipline]
      generalize refreshAt who' site older = g at ih
      split_ifs <;> cases g <;> first | exact absurd rfl ih | exact Refresh.noConfusion
    · rw [refreshAt_of_ne hwho]
      exact ih

/-- A process with a committed reconciliation has taken the lock. -/
lemma beganAt_of_locked (h : (refreshAt who site trace).Locked) :
    ∃ n, beganAt who trace = some n := by
  induction trace with
  | nil =>
    change (Refresh.first site.job).Locked at h
    unfold Refresh.first at h
    split_ifs at h <;> rcases h with h | h <;> cases h
  | cons e older ih =>
    obtain ⟨who', site', op, r⟩ := e
    change Site at site'
    by_cases hwho : who' = who
    · subst hwho
      by_cases hlock : takesLock op = true
      · exact ⟨older.length, if_pos ⟨rfl, hlock⟩⟩
      · rw [refreshAt_self] at h
        simp only [refreshDiscipline, if_neg hlock] at h
        have hbefore : (refreshAt who' site older).Locked := by
          generalize refreshAt who' site older = g at h
          split_ifs at h
          · cases g <;> first | exact .inl rfl | exact h
          · exact h
        obtain ⟨n, hn⟩ := ih hbefore
        exact ⟨n, (if_neg fun hand => hlock hand.2).trans hn⟩
    · rw [refreshAt_of_ne hwho] at h
      obtain ⟨n, hn⟩ := ih h
      exact ⟨n, (if_neg fun hand => hwho hand.1).trans hn⟩

/-- **Who has committed a reconciliation that began later has overtaken.** -/
lemma overtaken_of_later {n m : ℕ} (hother : other ≠ who)
    (hsited : ∀ e ∈ trace, e.who = other → Site.coordinator e.site = k)
    (hcommitted : refreshAt other site trace = .committed) (hn : beganAt who trace = some n)
    (hm : beganAt other trace = some m) (hlt : n < m) : overtaken k who trace = true := by
  induction trace with
  | nil => cases hn
  | cons e older ih =>
    have hsited' : ∀ e ∈ older, e.who = other → Site.coordinator e.site = k :=
      fun e' he' => hsited e' (List.mem_cons_of_mem _ he')
    have hhere := hsited e List.mem_cons_self
    obtain ⟨who', site', op, r⟩ := e
    change Site at site'
    simp only [beganAt, overtaken] at hn hm ⊢
    by_cases hwho : who' = who
    · -- the process itself: it has not taken the lock again
      subst hwho
      rw [refreshAt_of_ne hother.symm] at hcommitted
      simp only [hother.symm, false_and, if_false] at hm
      rw [if_pos rfl]
      by_cases hlock : takesLock op = true
      · rw [if_pos ⟨rfl, hlock⟩] at hn
        cases hn
        exact absurd (beganAt_lt hm) (Nat.not_lt.mpr hlt.le)
      · rw [if_neg fun hand => hlock hand.2] at hn
        rw [Bool.eq_false_of_not_eq_true hlock, Bool.not_false, Bool.true_and]
        exact ih hsited' hcommitted hn hm
    · simp only [hwho, false_and, if_false] at hn
      rw [if_neg hwho, Bool.or_eq_true]
      by_cases hself : who' = other
      · -- the other one: its last lock is older than its commit
        subst hself
        rw [refreshAt_self] at hcommitted
        simp only [refreshDiscipline] at hcommitted
        by_cases hlock : takesLock op = true
        · rw [if_pos hlock] at hcommitted
          generalize refreshAt who' site older = g at hcommitted
          cases g <;> cases hcommitted
        · rw [if_neg fun hand => hlock hand.2] at hm
          rw [if_neg hlock] at hcommitted
          by_cases hcommits : commits op r = true
          · exact .inl (by rw [hhere rfl, hcommits, decide_eq_true rfl, Bool.and_self])
          · rw [if_neg hcommits] at hcommitted
            exact .inr (ih hsited' hcommitted hn hm)
      · rw [refreshAt_of_ne hself] at hcommitted
        simp only [hself, false_and, if_false] at hm
        exact .inr (ih hsited' hcommitted hn hm)

end History

/-! ## The order of the reports -/

section Order

variable {side : RiskSide adapterOps} {scope : RuntimeScope} {port : RiskPort adapterOps}

/-- **Reports are applied in time**: whoever applies one has not been overtaken by a reconciliation
that was committed since its own one began. -/
def appliedInTime (c : (Timeline side scope port).Config) : (Timeline side scope port).Label → Bool
  | .run who _ =>
    match c.threads[who]? with
    | some (site, .call op _) =>
      !(appliesReport site op) || !(overtaken (Site.coordinator site) who c.state.trace)
    | _ => true
  | _ => true

/-- The reports were applied in the order in which their reconciliations began, and none of them is
later than the reconciliation of a process that has not been overtaken. -/
def InOrder (k : ℕ) (trace : List (runtimeSystem side scope port).Performed) : Prop :=
  ∃ began : List ℕ, appliedStamps k trace = began.map some ∧ began.Pairwise (· ≥ ·) ∧
    (∀ n ∈ began, n < trace.length) ∧
    ∀ who n, beganAt who trace = some n → overtaken k who trace = false → ∀ m ∈ began, m ≤ n

variable {k who : ℕ} {site : Site} {op : (full adapterOps).Op} {r : (full adapterOps).Res op}
  {trace : List (runtimeSystem side scope port).Performed}

/-- An operation that applies nothing at the coordinator. -/
lemma InOrder.later (h : InOrder k trace)
    (happly : ¬(site.coordinator = k ∧ appliesReport site op = true)) :
    InOrder k (⟨who, site, op, r⟩ :: trace) := by
  obtain ⟨began, hstamps, hsorted, hbound, hfirst⟩ := h
  refine ⟨began, (if_neg happly).trans hstamps, hsorted,
    fun n hn => Nat.lt_succ_of_lt (hbound n hn), fun other n hother hahead m hm => ?_⟩
  simp only [beganAt] at hother
  split_ifs at hother with hlock
  · cases hother
    exact (hbound m hm).le
  · refine hfirst other n hother ?_ m hm
    simp only [overtaken] at hahead
    split_ifs at hahead with hwho
    · rwa [Bool.eq_false_of_not_eq_true fun hlocks => hlock ⟨hwho, hlocks⟩, Bool.not_false,
        Bool.true_and] at hahead
    · exact (Bool.or_eq_false_iff.mp hahead).2

/-- What applies a report neither takes the lock nor commits. -/
lemma lock_of_appliesReport (h : appliesReport site op = true) :
    takesLock op = false ∧ commits op r = false := by
  unfold appliesReport at h
  split at h
  · exact ⟨rfl, rfl⟩
  · cases h

/-- A report is applied by a process that has not been overtaken. -/
lemma InOrder.apply (h : InOrder k trace) (happly : appliesReport site op = true)
    (hk : site.coordinator = k)
    (hsited : ∀ e ∈ trace, e.who = who → Site.coordinator e.site = k)
    (hcommitted : refreshAt who site trace = .committed) (htime : overtaken k who trace = false) :
    InOrder k (⟨who, site, op, r⟩ :: trace) := by
  obtain ⟨began, hstamps, hsorted, hbound, hfirst⟩ := h
  obtain ⟨hlock, hcommit⟩ := lock_of_appliesReport (r := r) happly
  obtain ⟨n, hn⟩ := beganAt_of_locked (hcommitted ▸ .inr rfl : (refreshAt who site trace).Locked)
  refine ⟨n :: began, ?_, List.pairwise_cons.mpr ⟨hfirst who n hn htime, hsorted⟩, fun m hm => ?_,
    fun other m hother hahead => ?_⟩
  · simp only [appliedStamps, hk, happly, and_self, if_true, hn, hstamps, List.map_cons]
  · rcases List.mem_cons.mp hm with rfl | hm
    · exact Nat.lt_succ_of_lt (beganAt_lt hn)
    · exact Nat.lt_succ_of_lt (hbound m hm)
  · simp only [beganAt, hlock, Bool.false_eq_true, and_false, if_false] at hother
    replace hahead : overtaken k other trace = false := by
      simp only [overtaken, hlock, hcommit, Bool.not_false, Bool.true_and, Bool.and_false,
        Bool.false_or, ite_self] at hahead
      exact hahead
    refine List.forall_mem_cons.mpr ⟨?_, hfirst other m hother hahead⟩
    by_cases hwho : who = other
    · subst hwho
      exact (Option.some.inj (hn.symm.trans hother)).le
    · by_contra hlt
      cases hahead.symm.trans (overtaken_of_later hwho hsited hcommitted hother hn (by omega))

/-- Every process keeps to the course of reconciliations. -/
abbrev Refreshing (c : (Timeline side scope port).Config) : Prop :=
  Disciplined refreshDiscipline (fun site : Site => Refresh.first site.job) c

/-- Who is about to apply a report has committed its reconciliation. -/
lemma committed_of_applies {g : Refresh} (hpre : refreshDiscipline.pre op g)
    (happly : appliesReport site op = true) (hg : site.job.dispatches = none → g ≠ .dispatching) :
    g = .committed := by
  unfold appliesReport at happly
  split at happly
  · obtain ⟨hwrites, hupdates⟩ := hpre
    rcases Bool.or_eq_true_iff.mp happly with h | h
    · exact hwrites h
    · obtain ⟨hjob, h⟩ := Bool.and_eq_true_iff.mp h
      exact (hupdates h).resolve_right (hg (Option.isNone_iff_eq_none.mp hjob))
  · cases happly

/-- **One step keeps the reports in order.** -/
lemma inOrder_step {c c' : (Timeline side scope port).Config}
    {label : (Timeline side scope port).Label} (hrefreshing : Refreshing c)
    (h : InOrder k c.state.trace) (htime : appliedInTime c label = true)
    (hstep : TracedStep c label c') : InOrder k c'.state.trace := by
  cases hstep with
  | start _ | kill _ | abandon _ _ | event _ => exact h
  | @run who choice site op next state r hthread hexec =>
    by_cases happly : site.coordinator = k ∧ appliesReport site op = true
    · obtain ⟨hk, happly⟩ := happly
      have hsited : ∀ e ∈ c.state.trace, e.who = who → Site.coordinator e.site = k := by
        rintro e he rfl
        obtain ⟨program, hprogram⟩ := hrefreshing.sited e he
        rw [hthread] at hprogram
        rw [← (Option.pair_inj hprogram).1]
        exact hk
      simp only [appliedInTime, hthread, happly, hk, Bool.not_true, Bool.false_or,
        Bool.not_eq_true'] at htime
      exact h.apply happly hk hsited (committed_of_applies (hrefreshing.follows hthread).1 happly
        fun hjob => refreshAt_serving hjob) htime
    · exact h.later happly

end Order

/-- **Reports that are applied in time are applied in the order of their reconciliations.** In every
run of coordinators with the production risk adapter in which nobody applies a report after a later
reconciliation was committed, every snapshot and every reservation is written for a reconciliation
that began no earlier than those for which something was written before.

**Proof sketch.** A process that applies a report has taken the lock and then committed. So if the
report of another process was applied before and its reconciliation began later, that other process
has committed since, and the one that applies its report now has been overtaken. -/
theorem reports_applied_in_order (adapter : RiskAdapter) (scope : RuntimeScope)
    {c₀ c : (Timeline (adapter.side scope) scope adapter.port).Config} (hthreads : c₀.threads = [])
    (htrace : c₀.state.trace = [])
    (hreach : Reach (fun c label => appliedInTime c label = true) c₀ c) (k : ℕ) :
    ∃ began : List ℕ, appliedStamps k c.state.trace = began.map some ∧ began.Pairwise (· ≥ ·) := by
  have hfirst : InOrder k c₀.state.trace := by
    rw [htrace]
    refine ⟨[], rfl, List.Pairwise.nil, fun _ hn => ?_, fun _ _ _ _ _ hm => ?_⟩
    · cases hn
    · cases hm
  have hrefreshing : Refreshing c₀ := .of_nil hthreads htrace
  obtain ⟨-, began, hstamps, hsorted, -⟩ :=
    Disciplined.reach (starts_of_jobs (refresh_job adapter scope)) inOrder_step hrefreshing hfirst
      hreach
  exact ⟨began, hstamps, hsorted⟩

/-! ## A report that comes too late -/

/-- A reconciliation that has made its report, then an order at the broker, and another
reconciliation that is applied. -/
def lateReport :
    List (Timeline (fixtureAdapter.side fixtureScope) fixtureScope fixtureAdapter.port).Label :=
  .start (0, .forceReconciliation .reconciliationStarted "operator") ::
    List.replicate 23 (.run 0 gateChoice) ++
  .event (.broker [ownOrder]) ::
  .start (0, .forceReconciliation .reconciliationStarted "operator") ::
    List.replicate 25 (.run 1 gateChoice)

/-- **An older report is applied last.** The order is in the snapshot of the later report; then the
report that was made before the order is applied, and the snapshot has lost it. -/
theorem older_report_applied_last :
    ∃ c c', gateConfig.run lateReport = some c ∧ c.step (.run 0 gateChoice) = some c' ∧
      appliedStamps 0 c'.state.trace = [some 6, some 29] ∧
      ((c.state.state.risk.snapshots 0).map (·.activeOrders)) = some [ownOrder] ∧
      ((c'.state.state.risk.snapshots 0).map (·.activeOrders)) = some [] ∧
      c'.state.state.book = [ownOrder] := by
  simp only [exists_and_left]
  decide +kernel

/-- One reconciliation after the other. -/
def oneByOne :
    List (Timeline (fixtureAdapter.side fixtureScope) fixtureScope fixtureAdapter.port).Label :=
  .start (0, .forceReconciliation .reconciliationStarted "operator") ::
    List.replicate 25 (.run 0 gateChoice) ++
  .start (0, .forceReconciliation .reconciliationStarted "operator") ::
    List.replicate 25 (.run 1 gateChoice)

/-- Two reconciliations that are applied in time. -/
theorem later_report_applied_last : ∃ (c : _) (began : List ℕ),
      gateConfig.runIf (fun c label => appliedInTime c label = true) oneByOne = some c ∧
      appliedStamps 0 c.state.trace = began.map some ∧ began.Pairwise (· ≥ ·) ∧
      began.length = 2 := by
  obtain ⟨c, hc, hlength⟩ : ∃ c,
      gateConfig.runIf (fun c label => appliedInTime c label = true) oneByOne = some c ∧
      (appliedStamps 0 c.state.trace).length = 2 := by
    decide +kernel
  obtain ⟨began, hstamps, hsorted⟩ := reports_applied_in_order fixtureAdapter fixtureScope rfl rfl
    (Config.reach_of_runIf hc) 0
  rw [hstamps, List.length_map] at hlength
  exact ⟨c, began, hc, hstamps, hsorted, hlength⟩

end VoxTrader.Core
