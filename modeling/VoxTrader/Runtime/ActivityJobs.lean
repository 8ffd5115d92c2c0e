import VoxTrader.Runtime.Activity
import VoxTrader.Runtime.ReconcileRule

/-!
# The activity of every job

Every job of a coordinator follows the discipline of activities, from the activity it begins with.
The programs are taken in the order of the source: starting and shutting down, reconciling,
following the streams, dispatching.

## Main results

* `follows_start`, `follows_streamWorker`, `follows_dispatchForPurpose` — the larger jobs.
* `activity_job` — every job follows the discipline.
-/

namespace VoxTrader.Runtime

open Process

variable {R : Interface} {scope : RuntimeScope} {role : Role} {inside passed : Bool} {a : Activity}

/-! ## Start and shutdown, before and after reconciling -/

section

variable {I : Interface} {D : Discipline I Activity} {ε α : Type} {P : Activity → Prop}
  {x : ExceptT ε (Process I) α}

/-- What a program keeps holds when it goes on. -/
lemma whenOk_of_keeps (hx : Keeps D P x.run) (ha : P a) :
    Follows D (fun r a' => r.toBool = true → P a') x.run a := by
  refine (hx a ha).mono fun _ _ h _ => ?_
  exact h

/-- Anything holds when a program that fails goes on. -/
lemma whenOk_of_error (hx : Follows D (fun r _ => ∃ e, r = .error e) x.run a) :
    Follows D (fun r a' => r.toBool = true → P a') x.run a := by
  refine hx.mono fun r a' hr h => ?_
  obtain ⟨e, rfl⟩ := hr
  cases h

end

/-- A start that cannot acquire the scope halts, without an epoch to record that in. -/
lemma follows_haltUnowned (error : RuntimeError) (hrole : a.role.unclaimed = false)
    (hlock : a.lock = .away) (hepoch : a.epoch = Option.none) :
    Follows activityBase (fun r _ => ∃ e, r = .error e)
      (holding (volatile .lockState) (volatile .unlockState) (do
        let _ : RuntimeState ← orFail .transition (volatile (.moveState .halted))
        throw error) : ExceptT RuntimeError (Process base) ℕ).run a := by
  have hunlock : ∀ (r : Except RuntimeError ℕ) a', (a'.lock = .settled ∧ ∃ e, r = .error e) →
      Follows activityBase (fun r _ => ∃ e, r = .error e) (do volatile .unlockState; return r) a' :=
    fun r a' h => ⟨.inr h.1, fun _ => h.2⟩
  refine follows_bind.mpr ⟨hlock, fun _ => follows_bind.mpr
    (Follows.mono hunlock (follows_bindExcept (follows_orFail.mpr
      ⟨⟨rfl, nofun, fun _ => rfl, hrole⟩, fun moved => ?_⟩)))⟩
  cases moved with
  | error => exact ⟨rfl, _, rfl⟩
  | ok =>
    refine ⟨if_neg fun h => ?_, _, rfl⟩
    have hany : a.epoch.any (0 < ·) = true := h.2
    rw [hepoch] at hany
    cases hany

/-- Taking the scope over: a start that goes on has published its epoch. -/
lemma follows_takeOwnership (hrole : a.role = .fresh) (hlock : a.lock = .away)
    (hepoch : a.epoch = Option.none) :
    Follows activityBase
      (fun (r : Except RuntimeError ℕ) a' => r.toBool = true → Resting .owner false false a')
      takeOwnership.run a := by
  refine follows_bindExcept (follows_liftExcept.mpr ⟨hrole, fun fresh => ?_⟩)
  cases fresh with
  | false => exact nofun
  | true =>
    have hnow : Follows activityBase (fun _ a' => a' = { a with role := .starter })
        nowUnixMs.run { a with role := .starter } := by
      refine follows_orFail.mpr (follows_bind.mpr ⟨trivial, fun now => ?_⟩)
      have hsame : External.now.after now { a with role := .starter } =
          { a with role := .starter } := if_neg fun h => h.2 hlock
      change Follows _ _ _ (External.now.after now { a with role := .starter })
      rw [hsame]
      cases now <;> exact rfl
    refine follows_bindExcept (hnow.mono fun now a₁ ha₁ => ?_)
    subst ha₁
    cases now with
    | error => exact nofun
    | ok =>
      refine follows_bindExcept (follows_liftExcept.mpr ⟨trivial, fun ownerId => ?_⟩)
      refine follows_bindExcept (follows_liftExcept.mpr ⟨trivial, fun owned => ?_⟩)
      cases owned with
      | ok =>
        exact ⟨rfl, fun _ => fun _ => ⟨rfl, hlock, nofun, nofun⟩⟩
      | error e =>
        have hhalt := whenOk_of_error (P := Resting .owner false false)
          (follows_haltUnowned (a := { a with role := .starter }) (.store e) rfl hlock hepoch)
        exact hhalt

/-- Everything before the first reconciliation. -/
lemma follows_prepareStart (hrole : a.role = .fresh) (hlock : a.lock = .away)
    (hepoch : a.epoch = Option.none) :
    Follows activityBase
      (fun (r : Except RuntimeError Unit) a' => r.toBool = true → Resting .owner false false a')
      (prepareStart scope).run a := by
  refine (follows_takeOwnership hrole hlock hepoch).bindExcept
    (fun _ _ _ => nofun) fun epoch a₁ ha₁ => ?_
  have hkeeps : Keeps activityBase (Resting .owner false false) (do
      transition scope .connecting .connecting "resolving opaque credential reference"
      resolveCredentials scope epoch
      transition scope .reconciling .reconciliationStarted
        "initial authoritative broker reconciliation" :
          ExceptT RuntimeError (Process base) Unit).run :=
    (keeps_transition rfl fun h => by cases h).bindExcept fun _ =>
      ((resting_handy rfl).resolveCredentials keeps_askOther
        (keeps_storeAside (.appendAudit epoch) rfl)).bindExcept fun _ =>
        keeps_transition rfl fun h => by cases h
  exact whenOk_of_keeps hkeeps (ha₁ rfl)

/-- Subscribing: the streams are handed to a worker. -/
lemma follows_subscribe (ha : Resting .owner false false a) : Follows activityBase
      (fun (r : Except RuntimeError Unit) a' => r.toBool = true → Resting .plain false false a')
      (subscribe scope).run a := by
  refine follows_bindExcept (follows_liftExcept.mpr
    ((keeps_connectStreams (.inl rfl) a ha).mono fun connected a₁ ha₁ => ?_))
  cases connected with
  | error e =>
    refine follows_bindExcept ((keeps_transition rfl (fun h => by cases h) a₁ ha₁).mono
      fun r a₂ _ => ?_)
    cases r with
    | error e | ok u => exact nofun
  | ok =>
    refine follows_bindExcept (follows_liftExcept.mpr
      ((keeps_calm (.storeSender true) rfl a₁ ha₁).mono fun _ a₂ ha₂ => ?_))
    refine follows_bindExcept (follows_liftExcept.mpr
      ((keeps_storeConnected (fun _ => .inl rfl) a₂ ha₂).mono fun _ a₃ ha₃ => ?_))
    exact follows_liftExcept.mpr ⟨ha₃.role,
      fun _ _ => ⟨rfl, ha₃.lock, nofun, nofun⟩⟩

lemma keeps_shutdown (hrole : role.acts = true) :
    Keeps activityBase (Resting role false false) (shutdown scope).run :=
  (resting_handy hrole).shutdown keeps_askOther keeps_calm (keeps_storeConnected nofun)
    fun _ _ ha => ⟨trivial, fun _ => ha⟩

/-! ## Reconciling -/

section

variable {α ε : Type} {P : Activity → Prop}

/-- A program of the operations every part performs, as part of a reconciliation. -/
lemma keeps_partOf {x : Process base α} (h : Keeps activityBase P x) :
    Keeps (activityDiscipline R).left P (liftM x : Process (withSnapshot R) α) :=
  Keeps.lift (Keeps.lift h)

lemma keeps_partOfExcept {x : ExceptT ε (Process base) α} (h : Keeps activityBase P x.run) :
    Keeps (activityDiscipline R).left P (liftM x : ExceptT ε (Process (withSnapshot R)) α).run :=
  keeps_partOf h

lemma keeps_partOfProcess {x : Process base α} (h : Keeps activityBase P x) :
    Keeps (activityDiscipline R).left P (liftM x : ExceptT ε (Process (withSnapshot R)) α).run :=
  keeps_partOfExcept h.except

/-- A quiet program of the risk port. -/
lemma keeps_quiet {x : Process (withRisk R) α} (h : x.Performs quietOp) :
    Keeps (activityDiscipline R).left.left (Resting role inside passed) x :=
  h.keeps fun op hop => by
    rcases op with (question | op | op) | op
    · exact keeps_ask question
    · exact hop.elim
    · exact hop.elim
    · exact fun a ha => ⟨trivial, fun _ => ha⟩

end

/-- The reads and the commit of a reconciliation. -/
lemma keeps_reconcile {epoch : ℕ} : Keeps (activityDiscipline R).left (Resting role inside passed)
      (reconcile scope epoch).run := by
  have hsnapshot : ∀ op, Keeps (activityDiscipline R).left (Resting role inside passed)
      (snapshotCall op) := fun op a ha => ⟨trivial, fun _ => ha⟩
  refine (keeps_partOfExcept (keeps_openReconciliation keeps_askOther
    (fun op hop _ => keeps_storeAside op hop) _ _)).bindExcept fun opening => ?_
  refine (hsnapshot .activeOrders).orFail.bindExcept fun orders => ?_
  refine (keeps_partOfExcept (keeps_planReconciliation keeps_askOther
    (fun op hop _ => keeps_storeAside op hop) _ _)).bindExcept fun plan => ?_
  refine (hsnapshot plan.commit).orFail.bindExcept fun _ => ?_
  exact (keeps_partOfExcept (keeps_storeAside (.compact _ _) rfl).orFail).bindExcept
    fun _ => keeps_pure

/-- **A reconciliation under its lock** leaves a report that is not applied yet, or a failure. -/
lemma follows_reconcileLocked (hrole : role.acts = true) (ha : Resting role false passed a) :
    Follows (activityDiscipline R).left
      (fun r a' => Resting role r.toBool passed a') (reconcileLocked scope).run a := by
  refine follows_holding ⟨?_, fun _ => ?_⟩ fun r a' h => ⟨trivial, fun _ => h⟩
  · change a.role.unclaimed = false
    rw [ha.role]
    exact Role.unclaimed_of_acts hrole
  have hinside : Resting role true passed { a with inside := true } :=
    ⟨ha.role, ha.lock, fun _ => rfl, ha.passed⟩
  refine (keeps_partOfExcept (keeps_epoch (Role.early_of_acts hrole)) _ hinside).bindExcept
    (fun _ _ ha₁ => ha₁.forget) fun _ a₁ ha₁ => ?_
  refine follows_bindExcept (follows_liftExcept.mpr
    ((keeps_reconcile a₁ ha₁).mono fun result a₂ ha₂ => ?_))
  cases result with
  | ok => exact ha₂
  | error =>
    refine follows_bindExcept ((keeps_partOfProcess (keeps_transition hrole
      fun h => by cases h) a₂ ha₂.forget).mono fun r a₃ ha₃ => ?_)
    cases r <;> exact ha₃

section

variable {port : RiskPort R} (hport : port.Quiet) (hrole : role.acts = true)
  (hsteady : ∀ target, role.settle target = role)

include hport hrole

/-- Applying a report uses it up. -/
lemma follows_applyReport_any {report : ReconciliationReport} (ha : Resting role true passed a) :
    Follows (activityDiscipline R).left
      (fun _ a' => ∃ role', Resting role' false passed a' ∧
        (role' = role ∨ ∃ target, role' = role.settle target))
      (applyReconciliationReport port scope report).run a := by
  refine follows_bindExcept (follows_lift.mpr (follows_liftExcept.mpr
    ((keeps_quiet (hport.reconcile report) a ha).mono fun r a₁ ha₁ => ?_)))
  cases r with
  | ok =>
    refine follows_lift.mpr (follows_lift.mpr
      ((follows_transition_any (Role.early_of_acts hrole) (Role.unclaimed_of_acts hrole) ha₁
        fun _ => rfl).mono fun r a₂ ha₂ => ?_))
    rcases ha₂ with ha₂ | ⟨-, ha₂⟩
    · exact ⟨_, ha₂, .inr ⟨_, rfl⟩⟩
    · exact ⟨_, ha₂, .inl rfl⟩
  | error =>
    refine ((keeps_partOfExcept (keeps_transition hrole fun h => by cases h)).bindExcept
      (fun _ => keeps_throw) a₁ ha₁.forget).mono fun _ a₂ ha₂ => ?_
    exact ⟨_, ha₂, .inl rfl⟩

include hsteady

/-- Applying a report, by a process that stays what it is. -/
lemma follows_applyReport {report : ReconciliationReport} (ha : Resting role true passed a) :
    Follows (activityDiscipline R).left (fun _ a' => Resting role false passed a')
      (applyReconciliationReport port scope report).run a := by
  refine (follows_applyReport_any hport hrole ha).mono fun _ a₁ h => ?_
  obtain ⟨role', ha₁, rfl | ⟨target, rfl⟩⟩ := h
  · exact ha₁
  · rw [hsteady] at ha₁
    exact ha₁

/-- The services of such a process. -/
lemma resting_services : Services (activityDiscipline R).left port scope (Resting role false passed)
    fun _ => Resting role true passed where
  transition _ htarget := keeps_transition hrole htarget
  serves _ _ ha := ha.forget
  reconcile _ ha := (follows_reconcileLocked hrole ha).mono fun r _ ha' => by cases r <;> exact ha'
  apply _ _ := follows_applyReport hport hrole hsteady

end

section

variable {port : RiskPort R} (hport : port.Quiet)

include hport

/-- **The loop that reconciles in the background**, by induction on its passes: it reconciles while
it has the claim, and begins again only with a new one. -/
lemma follows_coalescedLoop (passes : ℕ) : ∀ a, Resting (.loop true) false false a →
    Follows (activityDiscipline R).left (fun _ _ => True) (coalescedLoop port scope passes) a := by
  have hrelease : ∀ moved a, Resting (.loop moved) false false a →
    Follows (activityDiscipline R).left
      (fun _ _ => True)
      (liftM (volatile (.storeRunning false)) : Process (withSnapshot R) Unit) a :=
    fun moved a ha => ⟨⟨rfl, moved, ha.role⟩, fun _ => trivial⟩
  induction passes with
  | zero => exact fun _ _ => trivial
  | succ passes ih =>
    intro a ha
    refine follows_bind.mpr ⟨fun _ => ha.role, fun _ => ?_⟩
    have hclean : Resting (.loop true) false false ((Volatile.storeDirty false).after () a) :=
      ⟨ha.role, ha.lock, nofun, nofun⟩
    refine follows_bind.mpr ((follows_reconcileLocked rfl hclean).mono fun r a₁ ha₁ => ?_)
    cases r with
    | error => exact hrelease _ a₁ ha₁
    | ok =>
      refine follows_bind.mpr ⟨trivial, fun dirty => ?_⟩
      have hread : Resting (.loop true) true false (Volatile.loadDirty.after dirty a₁) :=
        ⟨ha₁.role, ha₁.lock, ha₁.inside, nofun⟩
      cases dirty with
      | true => exact ih _ hread.forget
      | false =>
        refine follows_bind.mpr ((follows_applyReport_any hport rfl hread).mono
          fun r a₂ happlied => ?_)
        obtain ⟨moved, ha₂⟩ : ∃ moved, Resting (.loop moved) false false a₂ := by
          obtain ⟨role', ha₂, rfl | ⟨target, rfl⟩⟩ := happlied
          all_goals exact ⟨_, ha₂⟩
        cases r with
        | error => exact hrelease _ a₂ ha₂
        | ok u =>
          -- between these two the loop has no claim
          refine follows_bind.mpr ⟨⟨rfl, moved, ha₂.role⟩, fun _ =>
            follows_bind.mpr ⟨trivial, fun again => ?_⟩⟩
          cases again with
          | false => exact trivial
          | true =>
            refine follows_bind.mpr ⟨rfl, fun claimed => ?_⟩
            cases claimed with
            | false => exact trivial
            | true =>
              have hclaimed : Resting (.loop false) false false (Volatile.casRunning.after true
                  (Volatile.loadDirty.after true ((Volatile.storeRunning false).after () a₂))) :=
                ⟨rfl, ha₂.lock, nofun, nofun⟩
              refine follows_bind.mpr (follows_lift.mpr (follows_lift.mpr
                ((follows_transition_any rfl rfl hclaimed fun h => by cases h).mono
                  fun moved a₃ ha₃ => ?_)))
              cases moved with
              | error =>
                rcases ha₃ with ha₃ | ⟨-, ha₃⟩
                all_goals exact hrelease _ a₃ ha₃
              | ok => exact ih a₃ (ha₃.resolve_right fun h => by cases h.1)

end

/-! ## Following the streams -/

section

variable {port : RiskPort R} (hport : port.Quiet)

include hport

/-- An event that is new. -/
lemma follows_handleNewEvent (event : BrokerEvent) (ha : Resting .worker false false a) :
    Follows (activityDiscipline R).left
      (fun r a' => r.toBool = true → Resting .worker false false a')
      (handleNewEvent port scope event).run a := by
  have hlookup : ∀ reason, Keeps (activityDiscipline R).left (Resting .worker false false) (do
        if ← liftM (streamEventHasLocalProvenance event) then return ()
        else handleUnfamiliarEvent port scope reason :
          ExceptT RuntimeError (Process (withSnapshot R)) Unit).run := fun _ =>
    (resting_services hport rfl fun _ => rfl).keeps_lookUp
      (keeps_streamEventHasLocalProvenance (keeps_storeAside _ rfl) (keeps_storeAside _ rfl) event)
  unfold handleNewEvent
  split
  · exact whenOk_of_keeps (hlookup _) ha
  · exact whenOk_of_keeps (hlookup _) ha
  all_goals exact follows_lift.mpr (follows_lift.mpr
    (follows_requestCoalescedReconciliation (.inl rfl) ha))

lemma follows_handleStreamSignal (signal : StreamSignal) (ha : Resting .worker false false a) :
    Follows (activityDiscipline R).left
      (fun r a' => r.toBool = true → Resting .worker false false a')
      (handleStreamSignal port scope signal).run a := by
  have hgap : ∀ stream reason, Keeps (activityDiscipline R).left
      (Resting .worker false false) (handleGap port scope stream reason).run := fun _ _ =>
    (resting_services hport rfl fun _ => rfl).keeps_handleGap (keeps_calm .loadSender rfl)
      (keeps_connectStreams (.inr rfl)) (keeps_storeConnected nofun)
  cases signal with
  | connected _ => exact fun _ => ha
  | event event =>
    refine (keeps_partOfExcept (keeps_recordEvent keeps_askOther
      (fun op hop _ => keeps_storeAside op hop) (keeps_epoch rfl) event) a ha).bindExcept
      (fun _ _ _ => nofun) fun inserted a₁ ha₁ => ?_
    cases inserted with
    | true => exact follows_handleNewEvent hport event ha₁
    | false => exact fun _ => ha₁
  | gap stream reason | disconnected stream reason => exact whenOk_of_keeps (hgap stream reason) ha

/-- **The worker that follows the streams**, by induction on the signals it handles: it goes on only
after a signal that was handled. -/
lemma follows_streamWorker (signals : ℕ) : ∀ a, Resting .worker false false a →
    Follows (activityDiscipline R).left (fun _ _ => True) (streamWorker port scope signals) a := by
  induction signals with
  | zero => exact fun _ _ => trivial
  | succ signals ih =>
    intro a ha
    refine follows_bind.mpr ((keeps_partOf (keeps_ask .nextSignal) a ha).mono
      fun signal a₁ ha₁ => ?_)
    cases signal with
    | none => exact trivial
    | some signal =>
      refine follows_bind.mpr ((follows_handleStreamSignal hport signal ha₁).mono
        fun r a₂ ha₂ => ?_)
      cases r with
      | error => exact trivial
      | ok => exact ih a₂ (ha₂ rfl)

/-- **Starting**: the first report is dropped when the streams are connected. -/
lemma follows_start (hrole : a.role = .fresh) (hlock : a.lock = .away)
    (hepoch : a.epoch = Option.none) :
    Follows (activityDiscipline R).left (fun _ _ => True) (start port scope).run a := by
  refine Follows.bindExcept (follows_lift.mpr (follows_lift.mpr (follows_prepareStart hrole hlock
    hepoch))) (fun _ _ _ => trivial) fun _ a₁ ha₁ => ?_
  refine (follows_reconcileLocked rfl (ha₁ rfl)).bindExcept
    (fun _ _ _ => trivial) fun first a₂ ha₂ => ?_
  by_cases hfirst : first.resultingState = .halted
  · refine (congrArg (fun x => Follows _ _ (ExceptT.run x) _) (if_pos hfirst)).mpr
      (((resting_services hport rfl fun _ => rfl).follows_applyReport_bind ha₂
        fun _ => keeps_pure).mono fun _ _ _ => trivial)
  refine (congrArg (fun x => Follows _ _ (ExceptT.run x) _) (if_neg hfirst)).mpr ?_
  refine Follows.bindExcept (follows_lift.mpr (follows_lift.mpr (follows_subscribe ha₂.forget)))
    (fun _ _ _ => trivial) fun _ a₃ ha₃ => ?_
  have hservices : Services (activityDiscipline R).left port scope
      (Resting .plain false false) fun _ => Resting .plain true false :=
    resting_services hport rfl fun _ => rfl
  exact (hservices.keeps_reconcileLocked (fun final a ha =>
    hservices.follows_applyReport_bind ha fun _ => keeps_pure) a₃ (ha₃ rfl)).mono
    fun _ _ _ => trivial

end

/-! ## Dispatching -/

/-- Nothing has to be remembered of the gate. -/
lemma Resting.unpassed (h : Resting role inside passed a) : Resting role inside false a :=
  ⟨h.role, h.lock, h.inside, nofun⟩

section

variable {port : RiskPort R} (hport : port.Quiet)

include hport

variable {purpose : RuntimeExecutionPurpose} {command : RuntimeExecutionCommand}

/-- **A dispatch** has seen the gate open until it has passed the fence. -/
lemma activity_course
    {id : String} : DispatchCourse (activityDiscipline R) port scope purpose command id
      (Resting .plain false true) (fun _ => Resting .plain false true)
      (fun _ _ => Resting .plain false true) (fun _ _ => Resting .plain false false)
      (fun _ => Resting .plain false false) (fun _ => Resting .plain false false)
      (fun _ => Resting .plain false false) (Resting .plain false false) where
  admitted_base _ := resting_handy rfl
  validated_base _ _ := resting_handy rfl
  lost_base _ _ := resting_handy rfl
  filed_base _ := resting_handy rfl
  settled_base _ := resting_handy rfl
  over_base := resting_handy rfl
  idle_over _ ha := ha.unpassed
  admitted_over _ _ ha := ha.unpassed
  validated_admitted _ _ _ ha := ha
  answered_over _ _ ha := ha
  filed_over _ _ ha := ha
  settled_over _ _ ha := ha
  admitCommand a ha := (keeps_quiet (hport.admitCommand purpose command id) a ha).mono
    fun r _ ha' => by
      cases r with
      | ok => exact ha'
      | error => exact ha'.unpassed
  validate approved admission a ha :=
    (keeps_quiet (hport.validateBeforeDispatch purpose approved id admission) a ha).mono
      fun r _ ha' => by cases r <;> exact ha'
  insert _ _ _ _ ha _ _ := ⟨trivial, fun _ => ha⟩
  claim _ _ epoch now a ha _ := by
    -- the fence ends the need for an open gate
    have hafter := fun r => DispatchOp.after_transitionMutation id [.notDispatched]
      .unknownAfterDispatch none epoch now r a
    refine ⟨fun _ => ha.passed rfl, fun record => ?_, fun e => ?_⟩
    · refine (congrArg (Resting .plain false false) ((hafter (.ok record)).trans
        (if_pos ⟨rfl, rfl⟩))).mpr ⟨ha.role, ha.lock, nofun, nofun⟩
    · exact (congrArg (Resting .plain false true) ((hafter (.error e)).trans
        (if_neg fun h => by cases h.2))).mpr ha
  send _ _ _ _ ha _ := ⟨trivial, fun _ => ha⟩
  link _ links epoch a ha := ((resting_handy rfl).persistLinks
    (keeps_storeAside (.upsertIdentityLinks links epoch) rfl) a ha).mono fun r _ ha' => by
      cases r <;> exact ha'
  file _ _ ha _ := ha
  finish result evidence epoch now a ha := by
    refine ⟨nofun, fun r => ?_⟩
    have hafter := DispatchOp.after_transitionMutation id [.unknownAfterDispatch]
      result.journalState evidence epoch now r a
    exact (congrArg (Resting .plain false false) (hafter.trans
      (if_neg fun h => by cases h.1))).mpr ha
  refuse _ a ha := keeps_quiet (hport.recordDispatchOutcome id .rejected) a ha.unpassed
  report result := keeps_quiet (hport.recordDispatchOutcome id (replyOutcome (.ok result)))
  lost _ a ha _ := keeps_quiet (hport.recordDispatchOutcome id .unknownAfterDispatch) a ha

/-- **Dispatching a command.** -/
lemma follows_dispatchForPurpose {id correlation : String}
    (hcommand : a.exposing = true → command.cleanup = false)
    (ha : Resting .plain false false a) :
    Follows (activityDiscipline R) (fun _ _ => True)
      (dispatchForPurpose port scope purpose command id correlation).run a := by
  refine ((activity_course hport).follows_gate
    ((follows_ensureExecutionAllowed rfl hcommand ha).mono fun r a₁ ha₁ => ?_)).mono
    fun _ _ _ => trivial
  cases r <;> exact ha₁

/-! ## Jobs -/

omit hport in
/-- A program that is run for its effects. -/
lemma follows_forEffects {α : Type} {x : Process (full R) α}
    {Q : α → Activity → Prop} (h : Follows (activityDiscipline R) Q x a) :
    Follows (activityDiscipline R) (fun _ _ => True) (do let _ ← x) a :=
  follows_bind.mpr (h.mono fun _ _ _ => trivial)

omit hport in
/-- A job that begins outside of everything. -/
lemma resting_first {role : Role} {exposing : Bool} :
    Resting role false false { Activity.none with role := role, exposing := exposing } :=
  ⟨rfl, rfl, nofun, nofun⟩

/-- **Every job follows the discipline of activities.** -/
theorem activity_job (scope : RuntimeScope) (job : Job) :
    Follows (activityDiscipline R) (fun _ _ => True) (job.program port scope)
      (firstActivity job) := by
  cases job with
  | start =>
    exact follows_forEffects (follows_lift.mpr (follows_start hport rfl rfl rfl))
  | dispatch purpose command =>
    refine follows_forEffects (follows_dispatchForPurpose hport (fun hexposing => ?_) resting_first)
    cases command with
    | regularOrder _ | postOrderAsync _ | replaceOrder _ => rfl
    | _ => cases hexposing
  | forceReconciliation reasonCode detail | reportStreamOverflow =>
    exact follows_forEffects (follows_lift.mpr
      ((resting_services hport rfl fun _ => rfl).keeps_forceReconciliation _ resting_first))
  | requestCoalescedReconciliation =>
    exact follows_forEffects (follows_lift.mpr (follows_lift.mpr
      (follows_lift.mpr (follows_requestCoalescedReconciliation (.inr rfl) resting_first))))
  | shutdown =>
    exact follows_forEffects (follows_lift.mpr (follows_lift.mpr
      (follows_lift.mpr (keeps_shutdown rfl _ resting_first))))
  | task task passes =>
    cases task with
    | streamWorker =>
      exact follows_lift.mpr (follows_streamWorker hport passes _ resting_first)
    | coalescedReconciliation =>
      exact follows_lift.mpr (follows_coalescedLoop hport passes _ resting_first)

end

end VoxTrader.Runtime
