import VoxTrader.Lib.Trace
import VoxTrader.Runtime.ActivityJobs
import VoxTrader.Runtime.AtMostOnce

/-!
# Runs of coordinators with their history

The system of the coordinators, with the history of every operation that was performed. The activity
of a process is what its operations so far have made of the one its job begins with, so that the
history determines it.

## Main definitions

* `Timeline` — the system with its history.
* `activityAt` — the activity of a process.
* `Instance.gateOpen` — the gate lets a command that can add exposure pass.

## Main results

* `timeline_reach` — the rule for invariants of runs.
* `execOp_volatile`, `execOp_coordinators` — which operations change the memory of a coordinator.
* `coordinators_run`, `coordinators_start`, `coordinators_leave`, `coordinators_event` — what a step
  does to it.
-/

namespace VoxTrader.Runtime

open System

open Option (pair_inj)

/-- The gate lets a command that can add exposure pass. -/
def Instance.gateOpen (i : Instance) : Prop :=
  i.state = .ready ∧ i.connected = true ∧ i.dirty = false ∧ i.running = false

instance (i : Instance) : Decidable i.gateOpen := by unfold Instance.gateOpen; infer_instance

section

variable {R : Interface} (side : RiskSide R) (scope : RuntimeScope) (port : RiskPort R)

/-- **The system of the coordinators with its history.** -/
abbrev Timeline : System (full R) := (runtimeSystem side scope port).traced

end

section

variable {R : Interface} {side : RiskSide R} {scope : RuntimeScope} {port : RiskPort R}

/-- The processes of the coordinators follow a discipline if the programs of the jobs do. -/
lemma starts_of_jobs {G : Type} {D : Discipline (full R) G} {first : Job → G} {Q : G → Prop}
    (h : ∀ job : Job, Process.Follows D (fun _ g => Q g) (job.program port scope) (first job)) :
    (runtimeSystem side scope port).Starts D (fun site : Site => first site.job) Q := by
  intro job w w' site program hstart
  obtain ⟨-, rfl, rfl⟩ := beginJob_frame hstart
  exact h job.2

/-- What a process has done so far. -/
def activityAt (who : ℕ) (site : Site) (trace : List (runtimeSystem side scope port).Performed) :
    Activity :=
  ghostAt (activityDiscipline R) (firstActivity site.job) who trace

variable {who : ℕ} {site : Site} {trace : List (runtimeSystem side scope port).Performed}

lemma activityAt_self {site' : Site} {op : (full R).Op} {r : (full R).Res op} :
    activityAt who site (⟨who, site', op, r⟩ :: trace) =
      (activityDiscipline R).next op r (activityAt who site trace) :=
  ghostAt_cons_self

lemma activityAt_of_ne {e : (runtimeSystem side scope port).Performed} (h : e.who ≠ who) :
    activityAt who site (e :: trace) = activityAt who site trace :=
  ghostAt_cons_of_ne h

/-- A command keeps adding exposure, or not. -/
lemma activityAt_exposing :
    (activityAt who site trace).exposing = (firstActivity site.job).exposing := by
  induction trace with
  | nil => rfl
  | cons e older ih =>
    by_cases hwho : e.who = who
    · obtain ⟨who', site', op, r⟩ := e
      change Site at site'
      subst hwho
      rw [activityAt_self, activity_exposing, ih]
    · rw [activityAt_of_ne hwho, ih]

lemma activityAt_of_idle (h : ∀ e ∈ trace, e.who ≠ who) :
    activityAt who site trace = firstActivity site.job :=
  ghostAt_of_idle h

end

/-! ## The memory of a coordinator -/

section

variable {R : Interface} {side : RiskSide R} {scope : RuntimeScope} {port : RiskPort R} {who k : ℕ}
  {site : Site} {choice : Choice side.Choice} {w w' : World side.State}

/-- An operation on the memory changes that of its own coordinator. -/
lemma execOp_volatile {op : Volatile} {r : op.Res}
    (h : execOp side scope (.inl (.inl (.inl (.volatile op)))) who site choice w = some (w', r)) :
    ∃ i i', w.coordinators[site.coordinator]? = some i ∧
      op.exec who choice.giveUp i = some (i', r) ∧
      w' = { w with coordinators := w.coordinators.set site.coordinator i' } := by
  rcases hi : w.coordinators[site.coordinator]? with _ | i
  · simp only [execOp, execBase, hi] at h
    cases h
  · simp only [execOp, execBase, hi] at h
    obtain ⟨⟨i', _⟩, hexec, h⟩ := Option.map_eq_some_iff.mp h
    cases h
    exact ⟨i, i', rfl, hexec, rfl⟩

variable {op : (full R).Op} {r : (full R).Res op} {i' : Instance}

/-- No other operation changes the memory of a coordinator. -/
lemma execOp_coordinators (hop : ∀ op', op ≠ .inl (.inl (.inl (.volatile op'))))
    (h : execOp side scope op who site choice w = some (w', r)) :
    w'.coordinators = w.coordinators := by
  rcases op with ((op | op) | op) | op
  · cases op with
    | external =>
      cases h
      rfl
    | volatile op => exact absurd rfl (hop op)
    | store =>
      rcases transaction_cases (Option.some.inj h) with ⟨rfl, _⟩ | ⟨a, db, _, rfl, -⟩ <;> rfl
  · obtain ⟨⟨risk, _⟩, _, h⟩ := Option.map_eq_some_iff.mp h
    cases h
    rfl
  · obtain ⟨_, _, rfl, -⟩ := execSnapshot_frame h
    rfl
  · obtain ⟨_, _, _, rfl, -⟩ := execDispatch_frame h
    rfl

/-- What an operation of process `who` does to the memory of its coordinator. -/
inductive Effect (who : ℕ) (giveUp : Bool) :
    (op : (full R).Op) → (full R).Res op → Instance → Instance → Prop
  | memory {op : Volatile} {r : op.Res} {i i' : Instance}
      (hexec : op.exec who giveUp i = some (i', r)) :
      Effect who giveUp (.inl (.inl (.inl (.volatile op)))) r i i'
  | nothing {op : (full R).Op} {r : (full R).Res op} {i : Instance}
      (hop : ∀ op', op ≠ .inl (.inl (.inl (.volatile op')))) : Effect who giveUp op r i i

/-- **What an operation does to a coordinator**: it has its effect on its own one. -/
lemma coordinators_run
    (h : (runtimeSystem side scope port).exec op who site choice w = some (w', r))
    (hi : w'.coordinators[k]? = some i') : ∃ i, w.coordinators[k]? = some i ∧
      (site.coordinator = k ∧ Effect who choice.giveUp op r i i' ∨
        site.coordinator ≠ k ∧ i' = i) := by
  replace h : execOp side scope op who site choice w = some (w', r) := h
  rcases volatile_or_beside op with ⟨op, rfl⟩ | hother
  · obtain ⟨i, i₁, hcoordinator, hexec, rfl⟩ := execOp_volatile h
    by_cases hk : site.coordinator = k
    · subst hk
      rw [List.getElem?_set_self (List.getElem?_eq_some_iff.mp hcoordinator).1] at hi
      cases hi
      exact ⟨i, hcoordinator, .inl ⟨rfl, .memory hexec⟩⟩
    · rw [List.getElem?_set_ne hk] at hi
      exact ⟨i', hi, .inr ⟨hk, rfl⟩⟩
  · rw [execOp_coordinators hother h] at hi
    refine ⟨i', hi, ?_⟩
    by_cases hk : site.coordinator = k
    · exact .inl ⟨hk, .nothing hother⟩
    · exact .inr ⟨hk, rfl⟩

/-- Starting a job takes at most a spawned task. -/
lemma coordinators_start {job : ℕ × Job} {program : Process (full R) Unit}
    (h : (runtimeSystem side scope port).start job w = some (w', site, program))
    (hi : w'.coordinators[k]? = some i') :
    ∃ i, w.coordinators[k]? = some i ∧ i' = { i with spawned := i'.spawned } := by
  replace h : beginJob side scope port job.1 job.2 w = some (w', site, program) := h
  unfold beginJob at h
  split at h
  · cases h
  · rename_i i task passes hcoordinator hjob
    split_ifs at h
    cases h
    by_cases hk : k = job.1
    · subst hk
      rw [List.getElem?_set_self (List.getElem?_eq_some_iff.mp hcoordinator).1] at hi
      cases hi
      exact ⟨i, hcoordinator, rfl⟩
    · rw [List.getElem?_set_ne (Ne.symm hk)] at hi
      exact ⟨i', hi, rfl⟩
  · cases h
    exact ⟨i', hi, rfl⟩

/-- A process that goes away gives back what it holds. -/
lemma coordinators_leave
    (hi : (w.coordinators.modify site.coordinator (Instance.leave who))[k]? = some i') :
    ∃ i, w.coordinators[k]? = some i ∧ (i' = i ∨ site.coordinator = k ∧ i' = i.leave who) := by
  rw [List.getElem?_modify] at hi
  obtain ⟨i, hk, hi'⟩ := Option.map_eq_some_iff.mp hi
  refine ⟨i, hk, ?_⟩
  split_ifs at hi' with hsite
  · exact .inr ⟨hsite, hi'.symm⟩
  · exact .inl hi'.symm

/-- The environment adds new coordinators at most. -/
lemma coordinators_event {e : EnvironmentStep}
    (h : (runtimeSystem side scope port).event e w = some w') (hi : w'.coordinators[k]? = some i') :
    w.coordinators[k]? = some i' ∨ w.coordinators.length = k ∧ i' = Instance.new := by
  cases e with
  | newCoordinator =>
    cases h
    by_cases hnew : k = w.coordinators.length
    · rw [hnew, List.getElem?_concat_length] at hi
      exact .inr ⟨hnew.symm, (Option.some.inj hi).symm⟩
    · rw [getElem?_concat_of_ne _ hnew] at hi
      exact .inl hi
  | broker =>
    cases h
    exact .inl hi

end

/-! ## Runs -/

section

variable {R : Interface} {side : RiskSide R} {scope : RuntimeScope} {port : RiskPort R}

/-- Every process belongs to a coordinator. -/
def Housed (c : (Timeline side scope port).Config) : Prop :=
  ∀ (who : ℕ) (site : Site) (program : Process (full R) Unit),
    c.threads[who]? = some (site, program) →
    site.coordinator < c.state.state.coordinators.length

/-- Every process keeps to the discipline of activities and belongs to a coordinator. -/
structure Orderly (c : (Timeline side scope port).Config) : Prop where
  disciplined : Disciplined (activityDiscipline R)
    (fun site : Site => firstActivity site.job) c
  housed : Housed c

variable {c : (Timeline side scope port).Config} {who other : ℕ} {site site' : Site}
  {program : Process (full R) Unit} {c' : (Timeline side scope port).Config}
  {label : (Timeline side scope port).Label}

/-- Before any call there is nothing to keep to. -/
lemma Orderly.of_nil (hthreads : c.threads = []) (htrace : c.state.trace = []) : Orderly c := by
  refine ⟨.of_nil hthreads htrace, fun _ _ _ hthread => ?_⟩
  rw [hthreads] at hthread
  cases hthread

/-- A process that goes on belongs where it did. -/
lemma getElem?_set_site {threads : List (Site × Process (full R) Unit)}
    {program' rest : Process (full R) Unit} (hthread : threads[who]? = some (site, program))
    (hother : (threads.set who (site, program'))[other]? = some (site', rest)) :
    ∃ before, threads[other]? = some (site', before) := by
  by_cases hwho : other = who
  · subst hwho
    rw [List.getElem?_set_self (List.getElem?_eq_some_iff.mp hthread).1] at hother
    cases hother
    exact ⟨program, hthread⟩
  · rw [List.getElem?_set_ne (Ne.symm hwho)] at hother
    exact ⟨rest, hother⟩

/-- A process that is there after a step was there before, or has just been started. -/
lemma thread_before (h : TracedStep c label c')
    (hthread : c'.threads[who]? = some (site, program)) :
    (∃ before, c.threads[who]? = some (site, before)) ∨
      who = c.threads.length ∧ ∃ job, label = .start job ∧ site = ⟨job.1, job.2⟩ ∧
        ∃ i, c.state.state.coordinators[job.1]? = some i := by
  cases h with
  | @start job state site' program' hstart =>
    by_cases hnew : who = c.threads.length
    · rw [hnew, List.getElem?_concat_length] at hthread
      cases hthread
      refine .inr ⟨hnew, job, rfl, (beginJob_frame hstart).2.1, ?_⟩
      rcases hi : c.state.state.coordinators[job.1]? with _ | i
      · replace hstart : beginJob side scope port job.1 job.2 c.state.state = _ := hstart
        simp only [beginJob, hi] at hstart
        cases hstart
      · exact ⟨i, rfl⟩
    · rw [getElem?_concat_of_ne _ hnew] at hthread
      exact .inl ⟨program, hthread⟩
  | run hbefore _ | kill hbefore | abandon hbefore _ =>
    exact .inl (getElem?_set_site hbefore hthread)
  | event => exact .inl ⟨program, hthread⟩

/-- No coordinator goes away. -/
lemma coordinators_length (h : TracedStep c label c') :
    c.state.state.coordinators.length ≤ c'.state.state.coordinators.length := by
  cases h with
  | @start job state site program hstart =>
    replace hstart : beginJob side scope port job.1 job.2 c.state.state = _ := hstart
    unfold beginJob at hstart
    split at hstart
    · cases hstart
    · split_ifs at hstart
      cases hstart
      exact le_of_eq (List.length_set ..).symm
    · cases hstart
      exact le_rfl
  | @run who choice site op next state r hthread hexec =>
    replace hexec : execOp side scope op who site choice c.state.state = some (state, r) := hexec
    rcases volatile_or_beside op with ⟨op, rfl⟩ | hother
    · obtain ⟨i, i', -, -, rfl⟩ := execOp_volatile hexec
      exact le_of_eq (List.length_set ..).symm
    · exact le_of_eq (congrArg List.length (execOp_coordinators hother hexec)).symm
  | kill _ | abandon _ _ => exact le_of_eq (List.length_modify ..).symm
  | @event e state hevent =>
    cases e with
    | newCoordinator =>
      cases hevent
      exact (List.length_append ..).symm ▸ Nat.le_add_right _ _
    | broker =>
      cases hevent
      exact le_rfl

/-- **The rule for invariants of runs**: what every step keeps holds wherever steps lead. -/
theorem timeline_reach (hport : port.Quiet)
    {good : (Timeline side scope port).Condition}
    {Inv : (Timeline side scope port).Config → Prop}
    (hkept : ∀ {c c' label}, Orderly c → Inv c → good c label → TracedStep c label c' →
      Inv c') {c₀ : (Timeline side scope port).Config} (horderly : Orderly c₀) (hinv : Inv c₀)
    (h : Reach good c₀ c) : Orderly c ∧ Inv c := by
  have hboth : ∀ {c c' : (Timeline side scope port).Config} {label},
      Disciplined (activityDiscipline R) (fun site : Site => firstActivity site.job) c →
      Housed c ∧ Inv c → good c label → TracedStep c label c' → Housed c' ∧ Inv c' := by
    intro c c' label hdisciplined hinv hgood hstep
    refine ⟨fun who site program hthread => ?_, hkept ⟨hdisciplined, hinv.1⟩ hinv.2 hgood hstep⟩
    rcases thread_before hstep hthread with ⟨before, hbefore⟩ | ⟨-, job, -, rfl, i, hi⟩
    · exact lt_of_lt_of_le (hinv.1 _ _ _ hbefore) (coordinators_length hstep)
    · exact lt_of_lt_of_le (List.getElem?_eq_some_iff.mp hi).1 (coordinators_length hstep)
  have hreach := Disciplined.reach (starts_of_jobs (activity_job hport scope)) hboth
    horderly.disciplined ⟨horderly.housed, hinv⟩ h
  exact ⟨⟨hreach.1, hreach.2.1⟩, hreach.2.2⟩

end

/-! ## A coordinator to run -/

/-- The port that approves every command does nothing else. -/
lemma approvingPort_quiet : approvingPort.Quiet :=
  ⟨fun _ _ _ => trivial, fun _ _ _ _ => trivial, fun _ _ => trivial, fun _ => trivial⟩

/-- The next store operation fails. -/
def faultyChoice : Choice Unit := { plainChoice () with storeFault := some "disk I/O error" }

/-- A ready coordinator with that port, before any call. -/
def readyTimeline : (Timeline approvingSide fixtureScope approvingPort).Config :=
  ⟨⟨⟨readyDb, [readyInstance], (), [], [], []⟩, []⟩, []⟩

/-- A new coordinator, before any call. -/
def newTimeline : (Timeline approvingSide fixtureScope approvingPort).Config :=
  ⟨⟨⟨RuntimeDb.empty, [Instance.new], (), [], [], []⟩, []⟩, []⟩

/-- The next signal of the streams. -/
def signalled (signal : StreamSignal) : Choice Unit :=
  { plainChoice () with
    answer := fun
      | .nextSignal => some signal
      | question => plainAnswer question }

/-- The coordinator starts, and its worker begins and gets a signal. -/
def firstSignal (signal : StreamSignal) :
    List (Timeline approvingSide fixtureScope approvingPort).Label :=
  .start (0, .start) :: List.replicate 64 (.run 0 (plainChoice ())) ++
    [.start (0, .task .streamWorker 2), .run 1 (signalled signal)]

end VoxTrader.Runtime
