import VoxTrader.Lib.Alone
import VoxTrader.Runtime.History

/-!
# What a call has done before it sends a command

A discipline that writes down everything a process performs. A dispatch that comes to the point
where it sends a command has run two programs of the risk port to their ends, and each of their
operations was performed somewhere on the way: the admission of the command, and the last look at
the command it was turned into. The risk port is not asked again after the last look.

## Main definitions

* `Chronicle` — the job of a process and what it has performed.
* `Chronicle.Ran` — a program of the risk port was run to its end.
* `Cleared` — a command was admitted, the last look let it through, and the risk port was not asked
  since.
* `chronicleDiscipline` — a command is sent after its admission and the last look.

## Main results

* `chronicle_job` — every job follows the discipline.
* `sent_after_admission` — whoever is about to send a command has run both programs.
-/

namespace VoxTrader.Runtime

open Process System

/-! ## Chronicles -/

/-- The job of a process and what it has performed, the newest first. -/
structure Chronicle (R : Interface) where
  job : Job
  performed : List ((op : (full R).Op) × (full R).Res op)

/-- The operation is one of the risk port's own. -/
def asksRisk {R : Interface} : (full R).Op → Bool
  | .inl (.inl (.inr _)) => true
  | _ => false

/-- An operation of a program of the risk port, as it is written down. -/
def entry {R : Interface} (op : (withRisk R).Op) (r : (withRisk R).Res op) :
    (op : (full R).Op) × (full R).Res op :=
  ⟨.inl (.inl op), r⟩

namespace Chronicle

variable {R : Interface} {α : Type}

/-- A process that has done nothing. -/
def first (job : Job) : Chronicle R := ⟨job, []⟩

/-- One more operation. -/
def add (op : (full R).Op) (r : (full R).Res op) (g : Chronicle R) : Chronicle R :=
  { g with performed := ⟨op, r⟩ :: g.performed }

/-- An operation of the risk port was performed, with this result. -/
def Has (g : Chronicle R) (op : (withRisk R).Op) (r : (withRisk R).Res op) : Prop :=
  entry op r ∈ g.performed

/-- A program of the risk port was run to its end, with this result. -/
def Ran (g : Chronicle R) (x : Process (withRisk R) α) (a : α) : Prop :=
  Runs (fun op (_ : Unit) r (_ : Unit) => g.Has op r) x () a ()

variable {g g' : Chronicle R}

lemma Ran.mono {x : Process (withRisk R) α} {a : α} (h : ∀ op r, g.Has op r → g'.Has op r)
    (hx : g.Ran x a) : g'.Ran x a :=
  (Runs.transfer (fun op _ r _ _ hop => ⟨(), h op r hop⟩) hx).elim fun _ hx' => hx'

/-- What was run stays run. -/
lemma Ran.add {x : Process (withRisk R) α} {a : α} {op : (full R).Op} {r : (full R).Res op}
    (hx : g.Ran x a) : (g.add op r).Ran x a :=
  hx.mono fun _ _ hop => List.mem_cons_of_mem _ hop

end Chronicle

/-! ## The discipline -/

section

variable {R : Interface}

/-- The command was admitted, then the last look let it through as `approved`, and the risk port was
not asked since. What is performed in the last look stands together. -/
def Cleared (port : RiskPort R) (purpose : RuntimeExecutionPurpose)
    (command approved : RuntimeExecutionCommand) (id : String) (admission : RiskAdmission)
    (performed : List ((op : (full R).Op) × (full R).Res op)) : Prop :=
  ∃ later look before, performed = later ++ look ++ before ∧ (∀ d ∈ later, asksRisk d.1 = false) ∧
    Runs (fun op (_ : Unit) r (_ : Unit) => entry op r ∈ before)
      (port.admitCommand purpose command id).run () (.ok admission) () ∧
    Runs (Logged entry) (port.validateBeforeDispatch purpose approved id admission).run []
      (.ok ()) look

section

variable {port : RiskPort R} {purpose : RuntimeExecutionPurpose}
  {command approved : RuntimeExecutionCommand} {id : String} {admission : RiskAdmission}
  {performed : List ((op : (full R).Op) × (full R).Res op)}

/-- A command stays cleared as long as the risk port is not asked. -/
lemma Cleared.cons (h : Cleared port purpose command approved id admission performed)
    {op : (full R).Op} {r : (full R).Res op} (hop : asksRisk op = false) :
    Cleared port purpose command approved id admission (⟨op, r⟩ :: performed) := by
  obtain ⟨later, look, before, rfl, hlater, hruns⟩ := h
  refine ⟨⟨op, r⟩ :: later, look, before, rfl, fun d hd => ?_, hruns⟩
  rcases List.mem_cons.mp hd with rfl | hd
  · exact hop
  · exact hlater d hd

/-- A command that was cleared was admitted. -/
lemma Cleared.admitted {g : Chronicle R}
    (h : Cleared port purpose command approved id admission g.performed) :
    g.Ran (port.admitCommand purpose command id).run (.ok admission) := by
  obtain ⟨later, look, before, hperformed, -, hadmitted, -⟩ := h
  refine (Runs.transfer (fun op _ r _ _ hop => ⟨(), ?_⟩) hadmitted).elim fun _ h => h
  rw [Chronicle.Has, hperformed]
  exact List.mem_append_right _ hop

end

/-- The discipline: everything is written down, and a command that is sent was cleared. -/
def chronicleDiscipline (port : RiskPort R) : Discipline (full R) (Chronicle R) where
  pre op g :=
    match op with
    | .inr (.dispatchOnce purpose approved _) => ∃ command id correlationId admission,
      g.job = .dispatch purpose command id correlationId ∧ Granted command admission approved ∧
      Cleared port purpose command approved id admission g.performed
    | _ => True
  next := Chronicle.add

variable {port : RiskPort R} {α : Type}

/-- Operations of the parts of a dispatch keep what every new entry keeps. -/
lemma chronicle_closed {P : Chronicle R → Prop}
    (hP : ∀ g (op : (full R).Op) r, P g → P (g.add op r)) :
    (chronicleDiscipline port).left.Closed P :=
  fun op g hg => ⟨trivial, fun r => hP g (.inl op) r hg⟩

lemma chronicle_free : (chronicleDiscipline port).left.Closed fun _ => True :=
  chronicle_closed fun _ _ _ _ => trivial

/-- What a program of the risk port performs until it ends. -/
lemma chronicle_ran {x : Process (withRisk R) α} {job : Job} {g : Chronicle R}
    (hjob : g.job = job) :
    Follows (chronicleDiscipline port).left.left (fun a g' => g'.job = job ∧
      Runs (Logged entry) x g.performed a g'.performed) x g := by
  have hkept : (chronicleDiscipline port).left.Closed fun g => g.job = job :=
    chronicle_closed fun _ _ _ hg => hg
  exact (keeps_of_closed hkept.left g hjob).and
    (follows_logged (fun _ _ => trivial) fun _ _ _ => rfl)

/-- A dispatch writes down its admission and the last look. -/
lemma chronicle_course (port : RiskPort R) (scope : RuntimeScope)
    (purpose : RuntimeExecutionPurpose) (command : RuntimeExecutionCommand)
    (id correlation : String) :
    DispatchCourse (chronicleDiscipline port) port scope purpose command id
      (fun g => g.job = .dispatch purpose command id correlation)
      (fun admission g => g.job = .dispatch purpose command id correlation ∧
        g.Ran (port.admitCommand purpose command id).run (.ok admission))
      (fun approved admission g => g.job = .dispatch purpose command id correlation ∧
        Cleared port purpose command approved id admission g.performed)
      (fun admission _ g => g.job = .dispatch purpose command id correlation ∧
        ∃ approved, Granted command admission approved ∧
          Cleared port purpose command approved id admission g.performed)
      (fun _ _ => True) (fun _ _ => True) (fun _ _ => True) (fun _ => True) where
  admitted_base _ := .of_closed (chronicle_closed fun _ _ _ hg => ⟨hg.1, hg.2.add⟩).left.left
  validated_base _ _ := .of_closed fun _ _ hg => ⟨trivial, fun _ => ⟨hg.1, hg.2.cons rfl⟩⟩
  lost_base _ _ := .of_closed chronicle_free.left.left
  filed_base _ := .of_closed chronicle_free.left.left
  settled_base _ := .of_closed chronicle_free.left.left
  over_base := .of_closed chronicle_free.left.left
  validated_admitted _ _ _ hg := ⟨hg.1, hg.2.admitted⟩
  admitCommand g hg := (chronicle_ran hg).mono fun r g' hg' => by
    cases r with
    | ok => exact ⟨hg'.1, hg'.2.mem_log.2⟩
    | error => trivial
  validate approved admission g hg := (chronicle_ran hg.1).mono fun r g' hg' => by
    cases r with
    | ok =>
      obtain ⟨look, hperformed, hlook⟩ := hg'.2.exists_log
      refine ⟨hg'.1, [], look, g.performed, hperformed, fun _ hd => absurd hd List.not_mem_nil,
        hg.2, ?_⟩
      simpa using hlook []
    | error => exact ⟨hg'.1, hg.2.mono fun _ _ hop => hg'.2.mem_log.1 _ hop⟩
  insert _ _ _ _ hg _ _ := ⟨trivial, fun _ => ⟨hg.1, hg.2.cons rfl⟩⟩
  claim approved _ _ _ _ hg hgranted := ⟨trivial,
    fun _ => ⟨hg.1, approved, hgranted, hg.2.cons rfl⟩, fun _ => ⟨hg.1, hg.2.admitted.add⟩⟩
  send admission approved record g hg hgranted := by
    obtain ⟨hjob, approved', hgranted', hcleared⟩ := hg
    obtain rfl : approved' = approved :=
      Except.ok.inj (hgranted'.applied.symm.trans hgranted.applied)
    exact ⟨⟨command, id, correlation, admission, hjob, hgranted, hcleared⟩, fun _ => trivial⟩
  link _ _ _ g _ := (keeps_of_closed chronicle_free.left.left g trivial).mono
    fun r _ _ => by cases r <;> trivial
  file _ _ _ _ := trivial
  finish _ _ _ _ _ _ := ⟨trivial, fun _ => trivial⟩
  refuse _ g _ := keeps_of_closed chronicle_free.left g trivial
  report _ g _ := keeps_of_closed chronicle_free.left g trivial
  lost _ g _ _ := keeps_of_closed chronicle_free.left g trivial

/-- The other jobs send nothing. -/
lemma chronicle_service (port : RiskPort R) (scope : RuntimeScope) :
    ServiceRule (chronicleDiscipline port).left port scope (fun _ => True) (fun _ => True)
      (fun _ _ => True) where
  base := chronicle_free.left.left
  locked_base := chronicle_free.left.left
  locked_serves _ _ := trivial
  lock _ _ := ⟨trivial, fun _ => trivial⟩
  holds _ _ _ _ _ := ⟨trivial, fun _ => trivial⟩
  serves _ _ _ := trivial
  reconcile _ g _ := (keeps_of_closed chronicle_free g trivial).mono
    fun r _ _ => by cases r <;> trivial
  apply _ g _ := keeps_of_closed chronicle_free.left g trivial

/-- **Every job follows the discipline.** -/
theorem chronicle_job (port : RiskPort R) (scope : RuntimeScope) (job : Job) :
    Follows (chronicleDiscipline port) (fun _ _ => True) (job.program port scope) (.first job) := by
  cases job with
  | dispatch purpose command id correlationId =>
    exact follows_bind.mpr (((chronicle_course port scope purpose command id
      correlationId).follows (chronicle_closed fun _ _ _ hg => hg).left.left rfl).mono
      fun _ _ _ => trivial)
  | _ => exact (chronicle_service port scope).follows rfl trivial

end

/-! ## Runs -/

section

variable {R : Interface} {side : RiskSide R} {scope : RuntimeScope} {port : RiskPort R}

/-- The chronicle of a process. -/
def chronicleAt (who : ℕ) (site : Site)
    (trace : List (runtimeSystem side scope port).Performed) : Chronicle R :=
  ghostAt (chronicleDiscipline port) (.first site.job) who trace

variable {who : ℕ} {site : Site} {op : (full R).Op} {r : (full R).Res op}
  {trace : List (runtimeSystem side scope port).Performed}

lemma chronicleAt_self {site' : Site} :
    chronicleAt who site (⟨who, site', op, r⟩ :: trace) = (chronicleAt who site trace).add op r :=
  ghostAt_cons_self

lemma chronicleAt_of_ne {e : (runtimeSystem side scope port).Performed} (h : e.who ≠ who) :
    chronicleAt who site (e :: trace) = chronicleAt who site trace :=
  ghostAt_cons_of_ne h

/-- What a process has performed, the newest first. -/
def performedBy (who : ℕ) (trace : List (runtimeSystem side scope port).Performed) :
    List ((op : (full R).Op) × (full R).Res op) :=
  (trace.filter (·.who = who)).map fun e => ⟨e.op, e.res⟩

/-- It is what stands in its chronicle. -/
lemma chronicleAt_performed : (chronicleAt who site trace).performed = performedBy who trace := by
  induction trace with
  | nil => rfl
  | cons e older ih =>
    obtain ⟨who', site', op', r'⟩ := e
    change Site at site'
    by_cases hwho : who' = who
    · subst hwho
      rw [chronicleAt_self]
      simpa [Chronicle.add, performedBy] using ih
    · rw [chronicleAt_of_ne hwho, ih]
      simp [performedBy, hwho]

/-- A process keeps its job. -/
lemma chronicleAt_job : (chronicleAt who site trace).job = site.job := by
  induction trace with
  | nil => rfl
  | cons e older ih =>
    obtain ⟨who', site', op', r'⟩ := e
    change Site at site'
    by_cases hwho : who' = who
    · subst hwho
      rw [chronicleAt_self]
      exact ih
    · rw [chronicleAt_of_ne hwho]
      exact ih

section Sent

variable {good : (Timeline side scope port).Condition}
  {c₀ c : (Timeline side scope port).Config}

/-- Every run follows the discipline. -/
lemma chronicled_reach (hthreads : c₀.threads = []) (htrace : c₀.state.trace = [])
    (hreach : Reach good c₀ c) :
    Disciplined (chronicleDiscipline port) (fun site : Site => Chronicle.first site.job) c := by
  have hnothing : ∀ {c c' : (Timeline side scope port).Config} {label},
      Disciplined (chronicleDiscipline port)
        (fun site : Site => Chronicle.first site.job) c → True → good c label →
      TracedStep c label c' → True := fun _ _ _ _ => trivial
  exact (Disciplined.reach (starts_of_jobs (chronicle_job port scope)) hnothing
    (.of_nil hthreads htrace) trivial hreach).1

/-- What a process has performed, it has performed on the way. -/
lemma performedIn_of_mem (hthreads : c₀.threads = []) (htrace : c₀.state.trace = [])
    (hreach : Reach good c₀ c) {program : Process (full R) Unit}
    (hthread : c.threads[who]? = some (site, program))
    (h : ⟨op, r⟩ ∈ performedBy who c.state.trace) : PerformedIn good c₀ c who site op r := by
  obtain ⟨⟨who', site', op', r'⟩, he, heq⟩ := List.mem_map.mp h
  obtain ⟨hmem, hwho⟩ := List.mem_filter.mp he
  obtain rfl : who' = who := of_decide_eq_true hwho
  cases heq
  obtain ⟨_, hsame⟩ := (chronicled_reach hthreads htrace hreach).sited _ hmem
  obtain rfl : site = site' := (Option.pair_inj (hthread.symm.trans hsame)).1
  rcases performed_reach hreach hmem with hold | hperformed
  · rw [htrace] at hold
    cases hold
  · exact hperformed

/-- **Whoever is about to send a command has had it admitted, and the last look has let it
through**, and has not asked the risk port since. -/
theorem sent_after_admission (hthreads : c₀.threads = []) (htrace : c₀.state.trace = [])
    (hreach : Reach good c₀ c) {purpose : RuntimeExecutionPurpose}
    {approved : RuntimeExecutionCommand} {record : MutationRecord}
    {next : (full R).Res (.inr (.dispatchOnce purpose approved record)) → Process (full R) Unit}
    (hthread : c.threads[who]? =
      some (site, .call (.inr (.dispatchOnce purpose approved record)) next)) :
    ∃ command id correlationId admission, site.job = .dispatch purpose command id correlationId ∧
      Granted command admission approved ∧
      Cleared port purpose command approved id admission (performedBy who c.state.trace) := by
  obtain ⟨command, id, correlationId, admission, hjob, hgranted, hcleared⟩ :=
    ((chronicled_reach hthreads htrace hreach).follows hthread).1
  have hperformed : (chronicleAt who site c.state.trace).performed =
      performedBy who c.state.trace := chronicleAt_performed
  exact ⟨command, id, correlationId, admission, chronicleAt_job.symm.trans hjob, hgranted,
    hperformed ▸ hcleared⟩

end Sent

end

end VoxTrader.Runtime
