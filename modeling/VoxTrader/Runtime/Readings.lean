import VoxTrader.Runtime.History

/-!
# What a reconciliation reads

The commit of a reconciliation and its report are determined by what it has read: the active orders,
the history, the unresolved mutations, the links and the orders that were asked for one by one. This
module says how, and proves that every commit of every job is made in that way.

## Main definitions

* `Readings` — what a reconciliation has read.
* `resolveAll` — what is found out about the unresolved mutations, from the orders that were read.
* `PlanOf` — a plan is made of the readings.
* `readingDiscipline` — the readings of a process, as its operations return them.

## Main results

* `reading_job` — every job commits only plans that are made of its readings.
-/

namespace VoxTrader.Runtime

open Process

/-- What a reconciliation has read. -/
structure Readings where
  orders : List OrderFact
  operations : List OperationFact
  listed : List MutationRecord
  linked : List BrokerIdentityLinks
  /-- The orders that were asked for, in turn. -/
  directs : List (Option OrderFact)

namespace Readings

/-- Only the active orders are known yet. -/
def ofOrders (orders : List OrderFact) : Readings := ⟨orders, [], [], [], []⟩

end Readings

/-! ## The plan of the readings -/

/-- What is found out about the unresolved mutations, given the orders that were read for those that
concern one. -/
def resolveAll (runtimeEpoch : ℕ) (now : I64) (snapshot : BrokerSnapshot)
    (links : List BrokerIdentityLinks) :
    List MutationRecord → List (Option OrderFact) → Resolution → Resolution
  | [], _, found => found
  | mutation :: rest, directs, found =>
    let existing := existingLinks links mutation.logicalRequestId
    let asked := mutation.kind.concernsOrder
    let direct := if asked then directs.head?.join else none
    let later := if asked then directs.tail else directs
    match resolveMutation runtimeEpoch now mutation existing snapshot direct with
    | some (record, link) =>
      resolveAll runtimeEpoch now snapshot links rest later
        { found with records := found.records ++ [record], links := found.links ++ [link] }
    | none =>
      resolveAll runtimeEpoch now snapshot links rest later
        { found with unresolvedIds := found.unresolvedIds ++ [mutation.logicalRequestId] }

/-- The snapshot of the readings. -/
def Readings.snapshot (readings : Readings) (opening : Opening) (stopOrders : List StopFact) :
    BrokerSnapshot :=
  ⟨opening.accounts, opening.portfolio, opening.positions, readings.orders, stopOrders,
    readings.operations, [], opening.now⟩

/-- What the readings say about the unresolved mutations. -/
def Readings.found (readings : Readings) (runtimeEpoch : ℕ) (opening : Opening)
    (stopOrders : List StopFact) : Resolution :=
  resolveAll runtimeEpoch opening.now (readings.snapshot opening stopOrders) readings.linked
    readings.listed readings.directs ⟨[], [], []⟩

/-- **The plan is made of the readings.** -/
def PlanOf (scope : RuntimeScope) (readings : Readings) (plan : Plan) : Prop :=
  ∃ runtimeEpoch opening stopOrders expectations,
    plan = makePlan scope runtimeEpoch opening (readings.snapshot opening stopOrders)
      readings.linked expectations (readings.found runtimeEpoch opening stopOrders)

/-! ## The discipline -/

/-- The readings of a process: those of a reconciliation that is under way, or of the last one that
was committed. A dispatch has none. -/
inductive Reading
  | dispatching
  | underway (readings : Readings)
  | committed (readings : Readings)

namespace Reading

/-- The readings a job begins with. -/
def first (job : Job) : Reading :=
  if job.dispatches.isSome then .dispatching else .committed (.ofOrders [])

/-- After a commit. -/
def commit : Reading → Reading
  | underway readings => .committed readings
  | g => g

/-- A reconciliation that is under way has read something. -/
def add (f : Readings → Readings) : Reading → Reading
  | underway readings => .underway (f readings)
  | g => g

/-- After a question. -/
def asked : (question : External) → question.Res → Reading → Reading
  | .operationsPage _ _, .ok page, g =>
    g.add fun readings => { readings with operations := readings.operations ++ page.items }
  | .orderState _ _, .ok direct, g =>
    g.add fun readings => { readings with directs := readings.directs ++ [direct] }
  | _, _, g => g

/-- After a store operation. -/
def stored : (op : StoreOp) → Except StoreError op.Value → Reading → Reading
  | .unresolvedMutations, .ok listed, g => g.add fun readings => { readings with listed := listed }
  | .allIdentityLinks, .ok linked, g => g.add fun readings => { readings with linked := linked }
  | _, _, g => g

/-- After an operation of a reconciliation. -/
def snapshotted : (op : SnapshotOp) → op.Res → Reading → Reading
  | .activeOrders, .ok orders, _ => .underway (.ofOrders orders)
  | .activeOrders, .error _, g => g
  | .commitReconciliation .., _, g => g.commit

end Reading

/-- The discipline: a dispatch does not begin a reconciliation, and a plan that is committed is made
of the readings. -/
def readingDiscipline (R : Interface) (scope : RuntimeScope) : Discipline (full R) Reading where
  pre op g :=
    match op with
    | .inl (.inr .activeOrders) => g ≠ .dispatching
    | .inl (.inr (.commitReconciliation checkpoint resolved links state reason)) =>
      ∃ readings plan, g = .underway readings ∧ PlanOf scope readings plan ∧
        plan.commit = .commitReconciliation checkpoint resolved links state reason
    | _ => True
  next op r g :=
    match op, r with
    | .inl (.inl (.inl (.external question))), r => Reading.asked question r g
    | .inl (.inl (.inl (.volatile _))), _ => g
    | .inl (.inl (.inl (.store op))), r => Reading.stored op r g
    | .inl (.inl (.inr _)), _ => g
    | .inl (.inr op), r => Reading.snapshotted op r g
    | .inr _, _ => g

section

variable {R : Interface} {scope : RuntimeScope}

/-- An operation of another part adds to the readings at most. -/
lemma reading_next (op : (withRisk R).Op) (r : (withRisk R).Res op) :
    ∃ f, ∀ g, (readingDiscipline R scope).left.left.next op r g = g.add f := by
  have hnone : ∀ g : Reading, g = g.add id := fun g => by cases g <;> rfl
  rcases op with op | op
  · cases op with
    | external question =>
      cases question with
      | operationsPage =>
        rcases r with _ | page
        · exact ⟨id, hnone⟩
        · exact ⟨_, fun _ => rfl⟩
      | orderState =>
        rcases r with _ | direct
        · exact ⟨_, hnone⟩
        · exact ⟨_, fun _ => rfl⟩
      | _ => exact ⟨id, hnone⟩
    | volatile => exact ⟨id, hnone⟩
    | store op =>
      cases op with
      | unresolvedMutations =>
        rcases r with _ | listed
        · exact ⟨id, hnone⟩
        · exact ⟨_, fun _ => rfl⟩
      | allIdentityLinks =>
        rcases r with _ | linked
        · exact ⟨id, hnone⟩
        · exact ⟨_, fun _ => rfl⟩
      | _ => exact ⟨id, hnone⟩
  · exact ⟨id, hnone⟩

lemma reading_pre {op : (withRisk R).Op} {g : Reading} :
    (readingDiscipline R scope).left.left.pre op g := by
  rcases op with op | op <;> exact trivial

/-- So it keeps what such additions keep. -/
lemma reading_closed {P : Reading → Prop} (hP : ∀ g f, P g → P (g.add f)) :
    (readingDiscipline R scope).left.left.Closed P := fun op g hg =>
  ⟨reading_pre, fun r => by
    obtain ⟨f, hf⟩ := reading_next op r
    rw [hf]
    exact hP g f hg⟩

lemma reading_dispatching : (readingDiscipline R scope).left.left.Closed (· = .dispatching) :=
  reading_closed fun _ _ hg => by rw [hg]; rfl

/-- What was committed stays. -/
lemma reading_committed {readings : Readings} :
    (readingDiscipline R scope).left.left.Closed (· = .committed readings) :=
  reading_closed fun _ _ hg => by rw [hg]; rfl

/-- Nothing that is read makes a dispatch of a process. -/
lemma reading_serving : (readingDiscipline R scope).left.left.Closed (· ≠ .dispatching) :=
  reading_closed fun g f hg h => by
    cases g with
    | dispatching => exact hg rfl
    | underway readings | committed readings => cases h

end

/-! ## The programs -/

variable {runtimeEpoch : ℕ}

section

variable {R : Interface} {scope : RuntimeScope} {g : Reading}

/-- The pages of the history: the operations are those that were read, by induction on how many
pages are left. -/
lemma follows_pagesRead {since : I64} {pages : ℕ} :
    ∀ (cursor : Option String) (seenCursors : List String) (readings : Readings),
      Follows (readingDiscipline R scope).left.left.left
        (fun r g' => ∀ operations, r = .ok operations →
          g' = .underway { readings with operations := operations })
        (operationPages since pages cursor seenCursors readings.operations).run
        (.underway readings) := by
  induction pages with
  | zero => exact fun _ _ _ _ h => by cases h
  | succ pages ih =>
    intro cursor seenCursors readings
    refine follows_bindExcept (follows_orFail.mpr ⟨trivial, fun r => ?_⟩)
    rcases r with _ | ⟨items, _ | nextCursor⟩
    · exact fun _ h => by cases h
    · intro operations h
      cases h
      rfl
    · change Follows _ _ (ExceptT.run
        (if Text.isBlank nextCursor || nextCursor ∈ seenCursors then _ else _)) _
      split_ifs
      · exact fun _ h => by cases h
      · exact ih _ _ { readings with operations := readings.operations ++ items }

/-- The search for evidence: what is found is determined by the orders that were read, by induction
on the mutations that are left. -/
lemma follows_resolveMutations {now : I64} {snapshot : BrokerSnapshot}
    {links : List BrokerIdentityLinks} (mutations : List MutationRecord) :
    ∀ (found : Resolution) (readings : Readings), Follows (readingDiscipline R scope).left.left.left
        (fun r g' => ∀ result, r = .ok result → ∃ directs,
          g' = .underway { readings with directs := readings.directs ++ directs } ∧
            result = resolveAll runtimeEpoch now snapshot links mutations directs found)
        (resolveMutations runtimeEpoch now snapshot links mutations found).run
        (.underway readings) := by
  induction mutations with
  | nil =>
    intro found readings result h
    cases h
    exact ⟨[], by rw [List.append_nil], rfl⟩
  | cons mutation rest ih =>
    intro found readings
    -- which order is read is known when the rest is searched
    have hread : Follows (readingDiscipline R scope).left.left.left
        (fun r g' => ∀ direct, r = .ok direct → ∃ read,
          g' = .underway { readings with directs := readings.directs ++ read } ∧ ∀ later,
            (if mutation.kind.concernsOrder then (read ++ later).head?.join else none) = direct ∧
            (if mutation.kind.concernsOrder then (read ++ later).tail else read ++ later) = later)
        (readOrder links mutation).run (.underway readings) := by
      unfold readOrder
      split_ifs
      · refine follows_orFail.mpr ⟨trivial, fun r direct h => ⟨[direct], ?_, fun _ => ⟨rfl, rfl⟩⟩⟩
        cases r <;> cases h
        rfl
      · rintro direct h
        cases h
        exact ⟨[], by rw [List.append_nil], fun _ => ⟨rfl, rfl⟩⟩
    rw [resolveMutations_cons]
    refine hread.bindExcept (fun _ _ _ => nofun) fun direct g₁ hg₁ => ?_
    obtain ⟨read, rfl, hlater⟩ := hg₁ direct rfl
    refine (ih _ { readings with directs := readings.directs ++ read }).mono
      fun r g' h result hr => ?_
    obtain ⟨later, rfl, rfl⟩ := h result hr
    refine ⟨read ++ later, by rw [← List.append_assoc], ?_⟩
    simp only [resolveAll, hlater later]
    generalize resolveMutation runtimeEpoch now mutation _ snapshot direct = outcome
    rcases outcome with _ | ⟨record, link⟩ <;> rfl

end

section

variable {R : Interface} {scope : RuntimeScope} {g : Reading}

/-- Recording fills reads nothing. -/
lemma follows_recordFills {now : I64} {Q : Except ReconciliationError Unit → Reading → Prop}
    {events : List BrokerEvent} (hQ : ∀ r, Q r g) :
    Follows (readingDiscipline R scope).left.left.left Q (recordFills now events).run g := by
  induction events with
  | nil => exact hQ _
  | cons event rest ih =>
    refine follows_bindExcept (follows_orFail.mpr ⟨trivial, fun r => ?_⟩)
    cases r with
    | error => exact hQ _
    | ok => exact ih

/-- A store operation of a reconciliation. -/
lemma follows_reconcilerStore {op : StoreOp} {α : Type}
    {rest : op.Value → ExceptT ReconciliationError (Process base) α}
    {Q : Except ReconciliationError α → Reading → Prop}
    (hok : ∀ a, Follows (readingDiscipline R scope).left.left.left Q (rest a).run
      (Reading.stored op (.ok a) g))
    (herror : ∀ e, Q (.error (.store e)) (Reading.stored op (.error e) g)) :
    Follows (readingDiscipline R scope).left.left.left Q (reconcilerStore op >>= rest).run g := by
  refine follows_bindExcept (follows_orFail.mpr ⟨trivial, fun r => ?_⟩)
  cases r with
  | error e => exact herror e
  | ok a => exact hok a

/-- **The plan is made of what was read.** -/
lemma follows_planReconciliation {opening : Opening} {orders : List OrderFact} :
    Follows (readingDiscipline R scope).left.left.left
      (fun r g' => ∀ plan, r = .ok plan → ∃ readings, g' = .underway readings ∧
        PlanOf scope readings plan)
      (planReconciliation scope runtimeEpoch opening orders).run
        (.underway (.ofOrders orders)) := by
  refine follows_bindExcept (follows_orFail.mpr (follows_perform.mpr ⟨trivial, fun stops => ?_⟩))
  cases stops with
  | error => exact fun _ h => by cases h
  | ok stops =>
    refine (follows_pagesRead none [] (.ofOrders orders)).bindExcept
      (fun _ _ _ _ h => by cases h) fun operations g₁ hg₁ => ?_
    obtain rfl := hg₁ operations rfl
    refine follows_reconcilerStore (fun listed => ?_) fun e _ h => by cases h
    split_ifs
    · exact fun _ h => by cases h
    refine follows_reconcilerStore (fun linked => ?_) fun e _ h => by cases h
    refine follows_reconcilerStore (fun expectations => ?_) fun e _ h => by cases h
    refine (follows_resolveMutations listed ⟨[], [], []⟩
      ⟨orders, operations, listed, linked, []⟩).bindExcept
      (fun _ _ _ _ h => by cases h) fun found g₂ hg₂ => ?_
    obtain ⟨directs, rfl, rfl⟩ := hg₂ found rfl
    refine follows_bindExcept (follows_recordFills fun r => ?_)
    cases r with
    | error => exact fun _ h => by cases h
    | ok =>
      intro plan h
      cases h
      exact ⟨_, rfl, runtimeEpoch, opening, stops, expectations, rfl⟩

end

/-! ## The jobs -/

/-- The report is that of the plan that was committed last. -/
def Reported (scope : RuntimeScope) (report : ReconciliationReport) (g : Reading) : Prop :=
  ∃ readings plan, g = .committed readings ∧ PlanOf scope readings plan ∧ report = plan.report

lemma Reported.serving {scope : RuntimeScope} {report : ReconciliationReport} {g : Reading}
    (h : Reported scope report g) : g ≠ .dispatching := by
  obtain ⟨readings, plan, rfl, -⟩ := h
  exact Reading.noConfusion

section

variable {R : Interface} {scope : RuntimeScope} {g : Reading}

/-- **A reconciliation commits the plan of its readings, and reports it.** -/
lemma follows_reconcile (hg : g ≠ .dispatching) :
    Follows (readingDiscipline R scope).left (fun r g' =>
      match r with
      | .ok report => Reported scope report g'
      | .error _ => g' ≠ .dispatching) (reconcile scope runtimeEpoch).run g := by
  refine (follows_baseExcept.mpr (keeps_of_closed reading_serving.left g hg)).bindExcept
    (fun _ _ h => h) fun _ g₁ hg₁ => ?_
  refine follows_bindExcept (follows_orFail.mpr ⟨hg₁, fun orders => ?_⟩)
  cases orders with
  | error => exact hg₁
  | ok orders =>
    refine (follows_baseExcept.mpr ((keeps_of_closed reading_serving.left
      (.underway (.ofOrders orders)) Reading.noConfusion).and
        follows_planReconciliation)).bindExcept
      (fun _ _ h => h.1) fun plan g₂ hg₂ => ?_
    obtain ⟨readings, rfl, hplan⟩ := hg₂.2 plan rfl
    refine follows_bindExcept (follows_orFail.mpr
      ⟨⟨readings, plan, rfl, hplan, rfl⟩, fun r => ?_⟩)
    cases r with
    | error => exact Reading.noConfusion
    | ok =>
      exact (follows_baseExcept.mpr (keeps_of_closed reading_committed.left (.committed readings)
        rfl)).bindExcept (fun _ _ hg₃ => hg₃.trans_ne Reading.noConfusion)
        fun _ _ hg₃ => ⟨readings, plan, hg₃, hplan, rfl⟩

/-- What was reported stays. -/
lemma reported_closed (report : ReconciliationReport) :
    (readingDiscipline R scope).left.left.Closed (Reported scope report) := by
  rintro op g ⟨readings, plan, rfl, hplan, rfl⟩
  obtain ⟨hpre, hnext⟩ := reading_committed op (.committed readings) rfl
  exact ⟨hpre, fun r => ⟨readings, plan, hnext r, hplan, rfl⟩⟩

/-- The jobs that dispatch nothing. -/
lemma reading_service (port : RiskPort R) (scope : RuntimeScope) :
    ServiceRule (readingDiscipline R scope).left port scope (· ≠ .dispatching) (· ≠ .dispatching)
      (Reported scope) where
  base := reading_serving.left
  locked_base := reading_serving.left
  locked_serves _ hg := hg
  lock := reading_serving.left (.volatile .lockReconciliation)
  holds report op g _ hg := (reported_closed report).left (.volatile op) g hg
  serves _ _ hg := hg.serving
  reconcile _ _ hg := follows_reconcile hg
  apply _ g hg := keeps_of_closed reading_serving g hg.serving

/-- **Every job commits only plans that are made of its readings.** -/
theorem reading_job (port : RiskPort R) (scope : RuntimeScope) (job : Job) :
    Follows (readingDiscipline R scope) (fun _ _ => True) (job.program port scope)
      (.first job) := by
  cases job with
  | dispatch =>
    -- it stays one that has read nothing
    have hport {α : Type} {x : Process (withRisk R) α} :
        Keeps (readingDiscipline R scope).left.left (· = .dispatching) x :=
      keeps_of_closed reading_dispatching
    exact follows_bind.mpr (((DispatchCourse.constant (.of_closed reading_dispatching.left)
      (fun _ _ hg => ⟨trivial, fun _ => hg⟩) (fun _ _ => keeps_of_closed reading_dispatching.left)
      hport (fun _ _ => hport) fun _ => hport).follows reading_dispatching.left rfl).mono
      fun _ _ _ => trivial)
  | _ => exact (reading_service port scope).follows rfl Reading.noConfusion

end

end VoxTrader.Runtime
