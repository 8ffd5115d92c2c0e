import VoxTrader.Runtime.DispatchRule

/-!
# A rule for reconciling

What one has to show about a discipline in order that every job but a dispatch follows it. Such a
job may reconcile any number of times. Each time it reads the active orders, commits, and then may
hand the report to the risk port.

There are two rules. The first one leaves open what a reconciliation does, and asks for a proof that
it follows the discipline. The second one is for disciplines that do not care about the operations
every part performs; what it keeps track of is that the orders of a report are the ones that were
read last.

## Main definitions

* `ServiceRule` — the conditions, with reconciliations left open.
* `ReconcileRule` — the conditions, operation by operation.

## Main results

* `ServiceRule.follows`, `ReconcileRule.follows` — every job that dispatches nothing follows a
  discipline that meets them.
-/

namespace VoxTrader.Runtime

open Process

/-- The programs a service is made of keep the property: it moves the state away from `READY`, and
reconciles. From the end of a reconciliation until its report is handed over, `reported` holds. -/
structure Services {R : Interface} {G : Type} (D : Discipline (withSnapshot R) G)
    (port : RiskPort R)
    (scope : RuntimeScope) (P : G → Prop) (reported : ReconciliationReport → G → Prop) : Prop where
  transition : ∀ target, target ≠ .ready → ∀ {reasonCode detail},
    Keeps D.left.left P (transition scope target reasonCode detail).run
  serves : ∀ report g, reported report g → P g
  reconcile : ∀ g, P g → Follows D (fun r g' =>
      match r with
      | .ok report => reported report g'
      | .error _ => P g') (reconcileLocked scope).run g
  apply : ∀ report g, reported report g →
    Follows D (fun _ g' => P g') (applyReconciliationReport port scope report).run g

namespace Services

variable {R : Interface} {G α : Type} {D : Discipline (withSnapshot R) G} {port : RiskPort R}
  {scope : RuntimeScope} {P : G → Prop} {reported : ReconciliationReport → G → Prop} {g : G}
  (h : Services D port scope P reported)

include h

/-- After a reconciliation the program goes on with its report. -/
lemma keeps_reconcileLocked
    {rest : ReconciliationReport → ExceptT RuntimeError (Process (withSnapshot R)) α}
    (hrest : ∀ report g, reported report g → Follows D (fun _ g' => P g') (rest report).run g) :
    Keeps D P (reconcileLocked scope >>= rest).run :=
  fun g hg => (h.reconcile g hg).bindExcept (fun _ _ h => h) hrest

/-- A report that is handed to the risk port and then goes on. -/
lemma follows_applyReport_bind {report : ReconciliationReport}
    {rest : Unit → ExceptT RuntimeError (Process (withSnapshot R)) α}
    (hg : reported report g) (hrest : ∀ u, Keeps D P (rest u).run) :
    Follows D (fun _ g' => P g') (applyReconciliationReport port scope report >>= rest).run g :=
  (h.apply report g hg).bindExcept (fun _ _ h => h) hrest

lemma keeps_forceReconciliation {reasonCode : ReasonCode} {detail : String} :
    Keeps D P (forceReconciliation port scope reasonCode detail).run :=
  (keeps_partExcept (h.transition .reconciling nofun)).bindExcept fun _ =>
    h.keeps_reconcileLocked fun _ _ hg => h.follows_applyReport_bind hg fun _ => keeps_pure

/-- The recovery from a gap in a stream: the report of the first reconciliation is dropped when the
streams are connected again. -/
lemma keeps_recoverStreamGap (hsender : Keeps D.left.left P (volatile .loadSender))
    (hconnect : Keeps D.left.left P connectStreams.run) {reason : String} :
    Keeps D P (recoverStreamGap port scope reason).run := by
  refine (keeps_partExcept (h.transition .reconciling nofun)).bindExcept fun _ =>
    h.keeps_reconcileLocked fun first g hg => ?_
  split_ifs
  · exact h.apply first g hg
  refine (keeps_partProcess hsender).bindExcept (fun sender => ?_) g (h.serves _ g hg)
  cases sender with
  | false => exact keeps_throw
  | true =>
    refine (keeps_partProcess hconnect).bindExcept fun connected => ?_
    cases connected with
    | error =>
      exact (keeps_partExcept (h.transition .halted nofun)).bindExcept fun _ => keeps_throw
    | ok => exact h.keeps_reconcileLocked h.apply

/-- A gap in a stream. -/
lemma keeps_handleGap (hsender : Keeps D.left.left P (volatile .loadSender))
    (hconnect : Keeps D.left.left P connectStreams.run)
    (hflag : Keeps D.left.left P (volatile (.storeConnected false)))
    {stream : StreamKind} {reason : String} :
    Keeps D P (handleGap port scope stream reason).run := by
  unfold handleGap
  split_ifs
  · exact (keeps_partProcess hflag).bindExcept fun _ => h.keeps_recoverStreamGap hsender hconnect
  · exact keeps_pure

/-- An order or stop that may be unfamiliar. -/
lemma keeps_lookUp {event : BrokerEvent} {reason : ReasonCode}
    (hlook : Keeps D.left.left P (streamEventHasLocalProvenance event).run) :
    Keeps D P (do
      if ← liftM (streamEventHasLocalProvenance event) then return ()
      else handleUnfamiliarEvent port scope reason :
        ExceptT RuntimeError (Process (withSnapshot R)) Unit).run := by
  refine (keeps_partExcept hlook).bindExcept fun familiar => ?_
  cases familiar with
  | true => exact keeps_pure
  | false =>
    refine h.keeps_forceReconciliation.bindExcept fun report => ?_
    split_ifs
    · exact keeps_partExcept (h.transition .halted nofun)
    · exact keeps_pure

/-- An event that is new. -/
lemma keeps_handleNewEvent {event : BrokerEvent}
    (hlook : Keeps D.left.left P (streamEventHasLocalProvenance event).run)
    (hrequest : ∀ {reasonCode detail},
      Keeps D.left.left P (requestCoalescedReconciliation scope reasonCode detail).run) :
    Keeps D P (handleNewEvent port scope event).run := by
  unfold handleNewEvent
  split
  · exact h.keeps_lookUp hlook
  · exact h.keeps_lookUp hlook
  all_goals exact keeps_partExcept hrequest

lemma keeps_start (hprepare : Keeps D.left.left P (prepareStart scope).run)
    (hsubscribe : Keeps D.left.left P (subscribe scope).run) :
    Keeps D P (start port scope).run := by
  refine (keeps_partExcept hprepare).bindExcept fun _ =>
    h.keeps_reconcileLocked fun first g hg => ?_
  split_ifs
  · exact h.follows_applyReport_bind hg fun _ => keeps_pure
  refine (keeps_partExcept hsubscribe).bindExcept (fun _ => ?_) g (h.serves _ g hg)
  exact h.keeps_reconcileLocked fun final g hg =>
    h.follows_applyReport_bind hg fun _ => keeps_pure

end Services

/-- The conditions under which a job that dispatches nothing follows a discipline, whatever a
reconciliation is made of: `serving` at any time, `locked` when it holds the lock of the
coordinator, and `reported` from the end of a reconciliation until its report is handed over. -/
structure ServiceRule {R : Interface} {G : Type} (D : Discipline (withSnapshot R) G)
    (port : RiskPort R) (scope : RuntimeScope) (serving locked : G → Prop)
    (reported : ReconciliationReport → G → Prop) : Prop where
  base : D.left.left.Closed serving
  locked_base : D.left.left.Closed locked
  locked_serves : ∀ g, locked g → serving g
  lock : ∀ g, serving g → D.left.left.pre (.volatile .lockReconciliation) g ∧
    ∀ r, locked (D.left.left.next (.volatile .lockReconciliation) r g)
  holds : ∀ report op g, op = .unlockReconciliation ∨ op = .loadDirty → reported report g →
    D.left.left.pre (.volatile op) g ∧ ∀ r, reported report (D.left.left.next (.volatile op) r g)
  serves : ∀ report g, reported report g → serving g
  reconcile : ∀ runtimeEpoch g, locked g → Follows D (fun r g' =>
      match r with
      | .ok report => reported report g'
      | .error _ => serving g') (reconcile scope runtimeEpoch).run g
  apply : ∀ report g, reported report g →
    Follows D.left (fun _ g' => serving g') (port.reconcile report).run g

namespace ServiceRule

variable {R : Interface} {G ε α β : Type} {D : Discipline (withSnapshot R) G} {port : RiskPort R}
  {scope : RuntimeScope} {serving locked : G → Prop} {reported : ReconciliationReport → G → Prop}
  {g : G}

section

variable (hD : ServiceRule D port scope serving locked reported)

include hD

/-- The operations every part performs keep the job serving. -/
lemma keeps_base (x : Process Runtime.base α) :
    Keeps D serving (liftM x : Process (withSnapshot R) α) :=
  (keeps_of_closed hD.base).lift.lift

lemma keeps_baseExcept (x : ExceptT ε (Process Runtime.base) α) :
    Keeps D serving (liftM x : ExceptT ε (Process (withSnapshot R)) α).run :=
  hD.keeps_base x.run

lemma keeps_baseProcess (x : Process Runtime.base α) :
    Keeps D serving (liftM x : ExceptT ε (Process (withSnapshot R)) α).run :=
  hD.keeps_baseExcept (liftM x)

/-- What happens between a reconciliation and its report leaves the report to be handed over. -/
lemma keeps_report (report : ReconciliationReport) {op : Volatile}
    (hop : op = .unlockReconciliation ∨ op = .loadDirty) :
    Keeps D (reported report) (liftM (volatile op) : Process (withSnapshot R) op.Res) := by
  have hbase : Keeps D.left.left (reported report) (volatile op) :=
    fun g hg => hD.holds report op g hop hg
  exact hbase.lift.lift

/-! ## A reconciliation -/

/-- The same under the lock of the coordinator. -/
lemma follows_reconcileLocked (hg : serving g) : Follows D (fun r g' =>
      match r with
      | .ok report => reported report g'
      | .error _ => serving g') (reconcileLocked scope).run g := by
  have hlock : Follows D (fun _ g' => locked g')
      (liftM (volatile .lockReconciliation) : Process (withSnapshot R) Unit) g :=
    follows_lift.mpr (follows_lift.mpr (hD.lock g hg))
  refine follows_holding (hlock.mono fun _ g₁ hg₁ => ?_) fun r g' hr => ?_
  swap
  · cases r with
    | ok report => exact hD.keeps_report report (.inl rfl) g' hr
    | error => exact hD.keeps_base _ g' hr
  refine (follows_baseExcept.mpr (keeps_of_closed hD.locked_base g₁ hg₁)).bindExcept
    (fun _ g₂ hg₂ => hD.locked_serves g₂ hg₂) fun epoch g₂ hg₂ => ?_
  refine follows_bindExcept (follows_liftExcept.mpr
    ((hD.reconcile epoch g₂ hg₂).mono fun result g₃ hg₃ => ?_))
  cases result with
  | ok => exact hg₃
  | error => exact (hD.keeps_baseProcess _ g₃ hg₃).bindExcept (fun _ _ h => h) fun _ _ h => h

/-- Handing such a report to the risk port. -/
lemma follows_applyReport {report : ReconciliationReport} (hg : reported report g) :
    Follows D (fun _ g' => serving g') (applyReconciliationReport port scope report).run g := by
  refine follows_bindExcept (follows_lift.mpr (follows_liftExcept.mpr
    ((hD.apply report g hg).mono fun r g' hg' => ?_)))
  cases r with
  | ok => exact hD.keeps_baseExcept _ g' hg'
  | error => exact (hD.keeps_baseExcept _).bindExcept (fun _ => keeps_throw) g' hg'

lemma services : Services D port scope serving reported where
  transition _ _ := keeps_of_closed hD.base
  serves := hD.serves
  reconcile _ := hD.follows_reconcileLocked
  apply _ _ := hD.follows_applyReport

/-! ## The jobs -/

/-- The loop that reconciles in the background. -/
lemma keeps_coalescedLoop (passes : ℕ) : Keeps D serving (coalescedLoop port scope passes) := by
  induction passes with
  | zero => exact keeps_pure
  | succ passes ih =>
    refine (hD.keeps_base _).bind fun _ => fun g hg => ?_
    refine follows_bind.mpr ((hD.follows_reconcileLocked hg).mono fun r g' hr => ?_)
    cases r with
    | error => exact hD.keeps_base _ g' hr
    | ok report =>
      refine follows_bind.mpr ((hD.keeps_report report (.inr rfl) g' hr).mono fun dirty g' hr => ?_)
      cases dirty with
      | true => exact ih g' (hD.serves _ g' hr)
      | false =>
        refine follows_bind.mpr ((hD.follows_applyReport hr).mono fun r g₁ hg₁ => ?_)
        cases r with
        | error => exact hD.keeps_base _ g₁ hg₁
        | ok u =>
          refine Keeps.bind (hD.keeps_base _) (fun _ => Keeps.bind (hD.keeps_base _)
            fun again => ?_) g₁ hg₁
          split_ifs
          · exact keeps_pure
          refine Keeps.bind (hD.keeps_base _) fun claimed => ?_
          split_ifs
          · exact keeps_pure
          refine Keeps.bind (hD.keeps_base _) fun moved => ?_
          cases moved with
          | error => exact hD.keeps_base _
          | ok => exact ih

lemma keeps_handleStreamSignal (signal : StreamSignal) :
    Keeps D serving (handleStreamSignal port scope signal).run := by
  have hgap : ∀ stream reason, Keeps D serving (handleGap port scope stream reason).run :=
    fun _ _ => hD.services.keeps_handleGap (keeps_of_closed hD.base) (keeps_of_closed hD.base)
      (keeps_of_closed hD.base)
  cases signal with
  | connected => exact keeps_pure
  | event =>
    refine (hD.keeps_baseExcept _).bindExcept fun inserted => ?_
    split_ifs
    · exact hD.services.keeps_handleNewEvent (keeps_of_closed hD.base) (keeps_of_closed hD.base)
    · exact keeps_pure
  | gap stream reason | disconnected stream reason => exact hgap stream reason

/-- The worker that follows the streams. -/
lemma keeps_streamWorker (signals : ℕ) : Keeps D serving (streamWorker port scope signals) := by
  induction signals with
  | zero => exact keeps_pure
  | succ signals ih =>
    refine (hD.keeps_base _).bind fun signal => ?_
    cases signal with
    | none => exact keeps_pure
    | some signal =>
      refine (hD.keeps_handleStreamSignal signal).bind fun r => ?_
      cases r with
      | error => exact keeps_pure
      | ok => exact ih

end

/-- **A job that dispatches nothing** follows every discipline that meets the rule. -/
theorem follows {D : Discipline (full R) G}
    (hD : ServiceRule D.left port scope serving locked reported)
    {job : Job}
    (hjob : job.dispatches = none) (hg : serving g) :
    Follows D (fun _ _ => True) (job.program port scope) g := by
  have hlift : ∀ {α : Type} {x : Process (withSnapshot R) α}, Keeps D.left serving x →
      Follows D (fun _ _ => True) (Process.lift x) g := fun hx =>
    follows_lift.mpr ((hx g hg).mono fun _ _ _ => trivial)
  cases job with
  | dispatch => cases hjob
  | start => exact follows_bind.mpr ((hlift (hD.services.keeps_start (keeps_of_closed hD.base)
      (keeps_of_closed hD.base))).mono fun _ _ _ => trivial)
  | forceReconciliation reasonCode detail | reportStreamOverflow =>
    exact follows_bind.mpr ((hlift hD.services.keeps_forceReconciliation).mono fun _ _ _ => trivial)
  | requestCoalescedReconciliation reasonCode detail =>
    exact follows_bind.mpr ((hlift (hD.keeps_base
      (requestCoalescedReconciliation scope reasonCode detail).run)).mono fun _ _ _ => trivial)
  | shutdown =>
    exact follows_bind.mpr ((hlift (hD.keeps_base (shutdown scope).run)).mono fun _ _ _ => trivial)
  | task task passes =>
    cases task with
    | streamWorker => exact hlift (hD.keeps_streamWorker passes)
    | coalescedReconciliation => exact hlift (hD.keeps_coalescedLoop passes)

end ServiceRule

/-! ## Reconciliations of which only some operations matter -/

/-- The conditions under which a job that dispatches nothing follows a discipline: `serving` at
any time, and `seen` from a read of the active orders to the end of a reconciliation. -/
structure ReconcileRule {R : Interface} {G : Type} (D : Discipline (withSnapshot R) G)
    (port : RiskPort R) (serving : G → Prop) (seen : List OrderFact → G → Prop) : Prop where
  base : ∀ g, D.left.left.FreeAt g
  serves : ∀ orders g, seen orders g → serving g
  read : ∀ g, serving g → D.pre (.inr .activeOrders) g ∧
    (∀ e, serving (D.next (.inr .activeOrders) (.error e) g)) ∧
    ∀ orders, seen orders (D.next (.inr .activeOrders) (.ok orders) g)
  commit : ∀ (plan : Plan) orders g, seen orders g → D.pre (.inr plan.commit) g ∧
    ∀ r, seen orders (D.next (.inr plan.commit) r g)
  apply : ∀ report g, seen report.activeOrders g →
    Follows D.left (fun _ g' => serving g') (port.reconcile report).run g

namespace ReconcileRule

variable {R : Interface} {G : Type} {D : Discipline (withSnapshot R) G} {port : RiskPort R}
  {scope : RuntimeScope} {serving : G → Prop} {seen : List OrderFact → G → Prop} {g : G}

/-- What is left after a reconciliation: a report on the orders that were read, or a failure. -/
lemma follows_reconcile (hD : ReconcileRule D port serving seen) {epoch : ℕ} (hg : serving g) :
    Follows D (fun r g' =>
      match r with
      | .ok report => seen report.activeOrders g'
      | .error _ => serving g') (reconcile scope epoch).run g := by
  refine follows_bindExcept (follows_baseExcept.mpr
    (follows_of_free (hD.base g) (returns_of_forall fun opening => ?_)))
  cases opening with
  | error => exact hg
  | ok =>
    obtain ⟨hpre, herror, hseen⟩ := hD.read g hg
    refine follows_bindExcept (follows_orFail.mpr ⟨hpre, fun orders => ?_⟩)
    cases orders with
    | error e => exact herror e
    | ok orders =>
      have hg₂ := hseen orders
      refine follows_bindExcept (follows_baseExcept.mpr (follows_of_free
        (hD.base _) (planReconciliation_activeOrders.mono fun plan hreport => ?_)))
      cases plan with
      | error => exact hD.serves _ _ hg₂
      | ok plan =>
        obtain ⟨hpre, hcommit⟩ := hD.commit plan orders _ hg₂
        refine follows_bindExcept (follows_orFail.mpr ⟨hpre, fun r => ?_⟩)
        cases r with
        | error => exact hD.serves _ _ (hcommit _)
        | ok u =>
          refine follows_bindExcept (follows_baseExcept.mpr (follows_of_free
            (hD.base _) (returns_of_forall fun compacted => ?_)))
          cases compacted with
          | error => exact hD.serves _ _ (hcommit _)
          | ok =>
            obtain rfl : plan.report.activeOrders = orders := hreport plan rfl
            exact hcommit _

/-- Such a rule is one about whole reconciliations. -/
lemma service (hD : ReconcileRule D port serving seen) :
    ServiceRule D port scope serving serving fun report g => seen report.activeOrders g where
  base := Discipline.closed_of_free hD.base _
  locked_base := Discipline.closed_of_free hD.base _
  locked_serves _ hg := hg
  lock := Discipline.closed_of_free hD.base _ (.volatile .lockReconciliation)
  holds _ op g _ hg := Discipline.closed_of_free hD.base _ (.volatile op) g hg
  serves report := hD.serves report.activeOrders
  reconcile _ _ hg := hD.follows_reconcile hg
  apply := hD.apply

/-- **A job that dispatches nothing** follows a discipline that meets the rule for single
operations. -/
theorem follows {D : Discipline (full R) G} (hD : ReconcileRule D.left port serving seen)
    {job : Job}
    (hjob : job.dispatches = none) (hg : serving g) :
    Follows D (fun _ _ => True) (job.program port scope) g :=
  hD.service.follows hjob hg

end ReconcileRule

end VoxTrader.Runtime
