import VoxTrader.Lib.Alone
import VoxTrader.Runtime.Parts
import VoxTrader.Runtime.System

/-!
# A reconciliation that runs alone

What a reconciliation has read and written when nothing else wrote to the store meanwhile. The
broker and the clock still answer what they like, and the store may fail. A reconciliation that
returns a report has then decided on what the store held, and the store holds what it decided.

## Main definitions

* `alone` — one operation, with no other write to the database in between.
* `RuntimeDb.SameRecords` — two databases with the same journal, links and expectations.
* `Searched` — what is found out about the unresolved mutations, one by one.

## Main results

* `runs_reconcile` — what a reconciliation that ran alone has read, decided and written.
-/

namespace VoxTrader.Runtime

open Process
open Performs (bindExcept)

/-! ## Operations without company -/

section

variable {R : Interface} (side : RiskSide R) (scope : RuntimeScope) (who : ℕ) (site : Site)
  (allowed : Choice side.Choice → Prop)

/-- One operation of a process, before which nobody else has written to the database; everything
else may have changed. The outside decides in an allowed way. -/
def alone (op : (full R).Op) (w : World side.State) (r : (full R).Res op) (w' : World side.State) :
    Prop :=
  ∃ choice w₁, allowed choice ∧ w₁.db = w.db ∧
    execOp side scope op who site choice w₁ = some (w', r)

/-- The same for the operations every part performs. -/
abbrev aloneBase (op : base.Op) : World side.State → base.Res op → World side.State → Prop :=
  alone side scope who site allowed (.inl (.inl (.inl op)))

end

/-- The two databases have the same journal, links and expectations. -/
structure RuntimeDb.SameRecords (db db' : RuntimeDb) : Prop where
  journal : db'.journal = db.journal
  identities : db'.identities = db.identities
  operationLinks : db'.operationLinks = db.operationLinks
  fillLinks : db'.fillLinks = db.fillLinks
  expectations : db'.expectations = db.expectations

namespace RuntimeDb.SameRecords

variable {db db' db'' : RuntimeDb} {key : String}

lemma refl (db : RuntimeDb) : SameRecords db db := ⟨rfl, rfl, rfl, rfl, rfl⟩

lemma trans (h : SameRecords db db') (h' : SameRecords db' db'') : SameRecords db db'' :=
  ⟨h'.journal.trans h.journal, h'.identities.trans h.identities,
    h'.operationLinks.trans h.operationLinks, h'.fillLinks.trans h.fillLinks,
    h'.expectations.trans h.expectations⟩

lemma allIdentityLinks (h : SameRecords db db') :
    db'.allIdentityLinks key = db.allIdentityLinks key := by
  simp only [RuntimeDb.allIdentityLinks, h.identities, h.operationLinks, h.fillLinks]

lemma expectedPositions (h : SameRecords db db') :
    db'.expectedPositions key = db.expectedPositions key := by
  simp only [RuntimeDb.expectedPositions, h.expectations]

lemma unresolvedMutations (h : SameRecords db db') :
    db'.unresolvedMutations key = db.unresolvedMutations key := by
  simp only [RuntimeDb.unresolvedMutations, h.journal]

end RuntimeDb.SameRecords

variable {op : StoreOp}

/-- A store operation other than storing links leaves journal, links and expectations alone. -/
lemma StoreOp.exec_sameRecords {scope : RuntimeScope} {db db' : RuntimeDb}
    {a : op.Value} (hop : BaseOp.LeavesRecords (.store op)) (h : op.exec scope db = .ok (a, db')) :
    db.SameRecords db' := by
  have hleaves := StoreOp.exec_leaves h
  have hw : ∀ table, table.ofLinks = true ∨ table = .journal ∨ table = .expectations →
      op.written table = false := by
    intro table ht
    cases op with
    | upsertIdentityLinks => exact hop.elim
    | _ => rcases table with _ | _ <;> first | rfl | simp [RuntimeDb.Table.ofLinks] at ht
  exact ⟨hleaves .journal (hw _ (by decide)), hleaves .identities (hw _ (by decide)),
    hleaves .operationLinks (hw _ (by decide)), hleaves .fillLinks (hw _ (by decide)),
    hleaves .expectations (hw _ (by decide))⟩

section

variable {R : Interface} {side : RiskSide R} {scope : RuntimeScope} {who : ℕ} {site : Site}
  {allowed : Choice side.Choice → Prop} {w w' : World side.State}

/-- An answer of the outside leaves the database alone. -/
lemma runs_ask {question : External} {r : question.Res}
    (h : Runs (aloneBase side scope who site allowed) (ask question) w r w') :
    w'.db = w.db ∧ ∃ choice, allowed choice ∧ choice.answer question = r := by
  obtain ⟨choice, w₁, hallowed, hdb, h⟩ := runs_perform.mp h
  cases h
  exact ⟨hdb, choice, hallowed, rfl⟩

/-- A store operation that succeeds is performed on the database. -/
lemma storeCall_ok {a : op.Value}
    (h : Runs (aloneBase side scope who site allowed) (storeCall op) w (.ok a) w') :
    op.exec scope w.db = .ok (a, w'.db) := by
  obtain ⟨choice, w₁, -, hdb, h⟩ := runs_perform.mp h
  rcases transaction_cases (Option.some.inj h) with ⟨-, e, he⟩ | ⟨a', db, hop, rfl, ha⟩
  · cases he
  · cases ha
    rw [← hdb]
    exact hop

/-- Storing no links, as a discipline. -/
def leavingRecords : Discipline base Unit := ⟨fun op _ => op.LeavesRecords, fun _ _ _ => ()⟩

lemma leaves_ask (question : External) (_ : question ≠ .nextSignal) :
    Keeps leavingRecords (fun _ => True) (ask question) :=
  fun _ _ => ⟨trivial, fun _ => trivial⟩

lemma leaves_store (op : StoreOp) (_ : op.aside = true) (h : BaseOp.LeavesRecords (.store op)) :
    Keeps leavingRecords (fun _ => True) (storeCall op) :=
  fun _ _ => ⟨h, fun _ => trivial⟩

/-- **A program that stores no links leaves journal, links and expectations alone.** -/
lemma sameRecords_of_runs {α : Type} {x : Process base α} {a : α}
    (hx : Keeps leavingRecords (fun _ => True) x)
    (h : Runs (aloneBase side scope who site allowed) x w a w') :
    w.db.SameRecords w'.db := by
  refine Performs.runs_rel (R := fun w w' => w.db.SameRecords w'.db)
    (fun w => .refl _) (fun _ _ _ => .trans) ?_ ((hx () trivial).performs fun _ _ h => h) h
  rintro op w r w' hop ⟨choice, w₁, -, hdb, hexec⟩
  rw [← hdb]
  cases op with
  | external =>
    cases hexec
    exact .refl _
  | volatile =>
    simp only [execOp, execBase] at hexec
    split at hexec
    · cases hexec
    · obtain ⟨_, -, heq⟩ := Option.map_eq_some_iff.mp hexec
      cases heq
      exact .refl _
  | store =>
    rcases transaction_cases (Option.some.inj hexec) with ⟨rfl, -⟩ | ⟨a, db, hop', rfl, -⟩
    · exact .refl _
    · exact StoreOp.exec_sameRecords hop hop'

end

/-! ## The search for evidence -/

/-- The links of a request are under its id. -/
lemma existingLinks_id {links : List BrokerIdentityLinks} {id : String} :
    (existingLinks links id).logicalRequestId = id := by
  unfold existingLinks
  generalize hfound : links.find? _ = found
  rcases found with _ | link
  · rfl
  · simpa using List.find?_some hfound

section

variable {R : Interface} {side : RiskSide R}

/-- The order that was read for a mutation; none is read for a mutation of a stop order. -/
def AskedFor (allowed : Choice side.Choice → Prop) (links : List BrokerIdentityLinks)
    (mutation : MutationRecord) (direct : Option OrderFact) : Prop :=
  if mutation.kind.concernsOrder then
    ∃ choice, allowed choice ∧ choice.answer (.orderState
      (orderReadId mutation.kind (existingLinks links mutation.logicalRequestId))
      mutation.logicalRequestId) = .ok direct
  else direct = none

/-- A mutation is resolved to a record and links, on what was read for it, or left unresolved. -/
def Outcome (allowed : Choice side.Choice → Prop) (runtimeEpoch : ℕ) (now : I64)
    (snapshot : BrokerSnapshot) (links : List BrokerIdentityLinks) (mutation : MutationRecord)
    (outcome : Option (MutationRecord × BrokerIdentityLinks)) : Prop :=
  ∃ direct, AskedFor allowed links mutation direct ∧
    resolveMutation runtimeEpoch now mutation (existingLinks links mutation.logicalRequestId)
      snapshot direct = outcome

/-- **What is found out about some mutations**, one by one and in their order. -/
inductive Searched (allowed : Choice side.Choice → Prop) (runtimeEpoch : ℕ) (now : I64)
    (snapshot : BrokerSnapshot) (links : List BrokerIdentityLinks) :
    List MutationRecord → Resolution → Prop
  | nil : Searched allowed runtimeEpoch now snapshot links [] ⟨[], [], []⟩
  | resolved {mutation : MutationRecord} {rest : List MutationRecord} {found : Resolution}
      {record : MutationRecord} {link : BrokerIdentityLinks}
      (h : Outcome allowed runtimeEpoch now snapshot links mutation (some (record, link)))
      (hrest : Searched allowed runtimeEpoch now snapshot links rest found) :
      Searched allowed runtimeEpoch now snapshot links (mutation :: rest)
        ⟨record :: found.records, link :: found.links, found.unresolvedIds⟩
  | unresolved {mutation : MutationRecord} {rest : List MutationRecord} {found : Resolution}
      (h : Outcome allowed runtimeEpoch now snapshot links mutation none)
      (hrest : Searched allowed runtimeEpoch now snapshot links rest found) :
      Searched allowed runtimeEpoch now snapshot links (mutation :: rest)
        { found with unresolvedIds := mutation.logicalRequestId :: found.unresolvedIds }

/-- One search after another. -/
def Resolution.append (found later : Resolution) : Resolution :=
  ⟨found.records ++ later.records, found.links ++ later.links,
    found.unresolvedIds ++ later.unresolvedIds⟩

variable {scope : RuntimeScope} {who : ℕ} {site : Site} {allowed : Choice side.Choice → Prop}
  {w w' : World side.State} {runtimeEpoch : ℕ} {now : I64} {snapshot : BrokerSnapshot}
  {links : List BrokerIdentityLinks}

lemma runs_readOrder {mutation : MutationRecord} {direct : Option OrderFact}
    (h : Runs (aloneBase side scope who site allowed) (readOrder links mutation).run w (.ok direct)
      w') : w'.db = w.db ∧ AskedFor allowed links mutation direct := by
  unfold readOrder at h
  unfold AskedFor
  split_ifs at h ⊢
  · exact runs_ask (runs_orFail_ok.mp h)
  · obtain ⟨hdirect, rfl⟩ := h
    exact ⟨rfl, Except.ok.inj hdirect⟩

/-- **The search for evidence that runs alone**, by induction on the mutations that are left. -/
lemma runs_resolveMutations (mutations : List MutationRecord) :
    ∀ {found result : Resolution} {w : World side.State},
      Runs (aloneBase side scope who site allowed)
        (resolveMutations runtimeEpoch now snapshot links mutations found).run w (.ok result) w' →
      w'.db = w.db ∧ ∃ later, result = found.append later ∧
        Searched allowed runtimeEpoch now snapshot links mutations later := by
  induction mutations with
  | nil =>
    rintro found result w ⟨hresult, rfl⟩
    cases hresult
    exact ⟨rfl, ⟨[], [], []⟩, by simp [Resolution.append], .nil⟩
  | cons mutation rest ih =>
    intro found result w h
    rw [resolveMutations_cons] at h
    obtain ⟨direct, w₁, hread, hrest⟩ := runs_bindExcept_ok.mp h
    obtain ⟨hdb, hasked⟩ := runs_readOrder hread
    obtain ⟨hw, later, rfl, hlater⟩ := ih hrest
    rcases hresolved : resolveMutation runtimeEpoch now mutation
      (existingLinks links mutation.logicalRequestId) snapshot direct with _ | ⟨record, link⟩
    · exact ⟨hw.trans hdb, _, by simp [Resolution.append, Resolution.note],
        .unresolved ⟨direct, hasked, hresolved⟩ hlater⟩
    · exact ⟨hw.trans hdb, _, by simp [Resolution.append, Resolution.note],
        .resolved ⟨direct, hasked, hresolved⟩ hlater⟩

end

/-! ## The whole reconciliation -/

section

variable {R : Interface} {side : RiskSide R} {scope : RuntimeScope} {who : ℕ} {site : Site}
  {allowed : Choice side.Choice → Prop} {w w' : World side.State} {runtimeEpoch : ℕ}

/-- The snapshot of a reconciliation. -/
def Opening.snapshot (opening : Opening) (activeOrders : List OrderFact)
    (stopOrders : List StopFact) (operations : List OperationFact) : BrokerSnapshot :=
  ⟨opening.accounts, opening.portfolio, opening.positions, activeOrders, stopOrders, operations, [],
    opening.now⟩

/-- The accounts of an opening are what the broker answered. -/
lemma runs_openReconciliation {opening : Opening} (h : Runs (aloneBase side scope who site allowed)
      (openReconciliation scope runtimeEpoch).run w (.ok opening) w') :
    w.db.SameRecords w'.db ∧
      ∃ choice, allowed choice ∧ choice.answer .accounts = .ok opening.accounts := by
  refine ⟨sameRecords_of_runs (keeps_openReconciliation leaves_ask leaves_store _ _) h, ?_⟩
  obtain ⟨now, _, -, h⟩ := runs_bindExcept_ok.mp h
  obtain ⟨reconciliationId, _, -, h⟩ := runs_bindExcept_ok.mp h
  obtain ⟨since, _, -, h⟩ := runs_bindExcept_ok.mp h
  obtain ⟨accounts, _, haccounts, h⟩ := runs_bindExcept_ok.mp h
  obtain ⟨portfolio, _, -, h⟩ := runs_bindExcept_ok.mp h
  obtain ⟨positions, _, -, h⟩ := runs_bindExcept_ok.mp h
  obtain ⟨hopening, -⟩ := h
  cases hopening
  exact (runs_ask (runs_orFail_ok.mp haccounts)).2

/-- A store operation that a reconciliation gets over. -/
lemma runs_reconcilerStore {a : op.Value}
    (h : Runs (aloneBase side scope who site allowed) (reconcilerStore op).run w (.ok a) w') :
    op.exec scope w.db = .ok (a, w'.db) :=
  storeCall_ok (runs_orFail_ok.mp h)

/-- The plan of a reconciliation that decided on the records of a database. -/
def Planned (allowed : Choice side.Choice → Prop) (scope : RuntimeScope) (runtimeEpoch : ℕ)
    (db : RuntimeDb) (opening : Opening) (activeOrders : List OrderFact) (plan : Plan) : Prop :=
  ∃ stopOrders operations listed found,
    (∃ choice, allowed choice ∧ choice.answer (.stopOrders opening.since) = .ok stopOrders) ∧
    db.unresolvedMutations scope.key = .ok listed ∧
    Searched allowed runtimeEpoch opening.now (opening.snapshot activeOrders stopOrders operations)
      (db.allIdentityLinks scope.key) listed found ∧
    plan = makePlan scope runtimeEpoch opening
      (opening.snapshot activeOrders stopOrders operations) (db.allIdentityLinks scope.key)
      (db.expectedPositions scope.key) found

/-- **The remaining reads and the plan**, with nobody else writing meanwhile. -/
lemma runs_planReconciliation {opening : Opening} {activeOrders : List OrderFact} {plan : Plan}
    (h : Runs (aloneBase side scope who site allowed)
      (planReconciliation scope runtimeEpoch opening activeOrders).run w (.ok plan) w') :
    w.db.SameRecords w'.db ∧
      Planned allowed scope runtimeEpoch w.db opening activeOrders plan := by
  obtain ⟨stopOrders, w₁, hstops, h⟩ := runs_bindExcept_ok.mp h
  obtain ⟨hdb₁, hanswer⟩ := runs_ask (runs_orFail_ok.mp hstops)
  obtain ⟨operations, w₂, hoperations, h⟩ := runs_bindExcept_ok.mp h
  have hsame₂ : w.db.SameRecords w₂.db := by
    rw [← hdb₁]
    exact sameRecords_of_runs (keeps_operationPages leaves_ask _ _ _ _) hoperations
  obtain ⟨answer, w₃, hlisted, h⟩ := runs_bindExcept_ok.mp h
  obtain ⟨listed, hlist, heq₃⟩ := Except.map_eq_ok.mp (runs_reconcilerStore hlisted)
  obtain ⟨rfl, hdb₃⟩ := Prod.mk.inj heq₃
  split_ifs at h
  · cases h.1
  obtain ⟨links, w₄, hlinks, h⟩ := runs_bindExcept_ok.mp h
  obtain ⟨rfl, hdb₄⟩ := Except.pair_inj (runs_reconcilerStore hlinks)
  obtain ⟨expectations, w₅, hexpectations, h⟩ := runs_bindExcept_ok.mp h
  obtain ⟨rfl, hdb₅⟩ := Except.pair_inj (runs_reconcilerStore hexpectations)
  obtain ⟨found, w₆, hfound, h⟩ := runs_bindExcept_ok.mp h
  obtain ⟨hdb₆, later, rfl, hsearched⟩ := runs_resolveMutations listed hfound
  obtain ⟨_, w₇, hfills, h⟩ := runs_bindExcept_ok.mp h
  have hsame₇ := sameRecords_of_runs (keeps_recordFills leaves_store _) hfills
  obtain ⟨hplan, rfl⟩ := h
  have hsame : w.db.SameRecords w₄.db := by
    rw [← hdb₄, ← hdb₃]
    exact hsame₂
  rw [hdb₆, ← hdb₅] at hsame₇
  rw [hdb₄, hsame.allIdentityLinks] at hsearched hplan
  rw [hsame.expectedPositions] at hplan
  rw [hsame₂.unresolvedMutations] at hlist
  exact ⟨hsame.trans hsame₇, stopOrders, operations, listed, later, hanswer, hlist, hsearched,
    Except.ok.inj hplan⟩

end

section

variable {R : Interface} {side : RiskSide R} {scope : RuntimeScope} {who : ℕ} {site : Site}
  {allowed : Choice side.Choice → Prop} {w w' : World side.State} {runtimeEpoch : ℕ}

/-- The same for the operations of a reconciliation. -/
abbrev aloneSnapshot (side : RiskSide R) (scope : RuntimeScope) (who : ℕ) (site : Site)
    (allowed : Choice side.Choice → Prop) (op : (withSnapshot R).Op) :
    World side.State → (withSnapshot R).Res op → World side.State → Prop :=
  alone side scope who site allowed (.inl op)

/-- A program of the operations every part performs, as part of a reconciliation. -/
lemma runs_baseExcept {ε α : Type} {x : ExceptT ε (Process base) α} {a : Except ε α} :
    Runs (aloneSnapshot side scope who site allowed)
      (liftM x : ExceptT ε (Process (withSnapshot R)) α).run w a w' ↔
      Runs (aloneBase side scope who site allowed) x.run w a w' :=
  runs_lift.trans runs_lift

/-- A read of the active orders leaves the database alone. -/
lemma runs_activeOrders {r : Except BrokerPortError (List OrderFact)}
    (h : Runs (aloneSnapshot side scope who site allowed)
      (snapshotCall .activeOrders) w r w') : w'.db = w.db := by
  obtain ⟨choice, w₁, -, hdb, hexec⟩ := runs_perform.mp h
  simp only [execOp, execSnapshot] at hexec
  split at hexec
  all_goals
    cases hexec
    exact hdb

/-- A commit that succeeds is performed on the database. -/
lemma runs_commit {plan : Plan}
    (h : Runs (aloneSnapshot side scope who site allowed) (snapshotCall plan.commit) w
      (.ok ()) w') :
    ∃ state reason, w.db.commitReconciliation plan.checkpoint plan.resolved plan.links state
      reason = .ok w'.db := by
  obtain ⟨choice, w₁, -, hdb, hexec⟩ := runs_perform.mp h
  rcases transaction_cases (Option.some.inj hexec) with ⟨-, e, he⟩ | ⟨a, db, hcommit, rfl, -⟩
  · cases he
  · obtain ⟨_, hok, heq⟩ := Except.map_eq_ok.mp hcommit
    cases heq
    rw [hdb] at hok
    exact ⟨_, _, hok⟩

/-- **A reconciliation that returns a report, with nobody else writing meanwhile**, decided on the
mutations, links and expectations the database held, and committed what it decided. -/
lemma runs_reconcile {report : ReconciliationReport}
    (h : Runs (aloneSnapshot side scope who site allowed)
      (reconcile scope runtimeEpoch).run w (.ok report) w') :
    ∃ (opening : Opening) (activeOrders : List OrderFact) (plan : Plan) (before after : RuntimeDb),
      (∃ choice, allowed choice ∧ choice.answer .accounts = .ok opening.accounts) ∧
      Planned allowed scope runtimeEpoch w.db opening activeOrders plan ∧
      w.db.SameRecords before ∧
      (∃ state reason, before.commitReconciliation plan.checkpoint plan.resolved plan.links state
        reason = .ok after) ∧
      after.SameRecords w'.db ∧ report = plan.report := by
  obtain ⟨opening, w₁, hopening, h⟩ := runs_bindExcept_ok.mp h
  obtain ⟨hsame₁, haccounts⟩ := runs_openReconciliation (runs_baseExcept.mp hopening)
  obtain ⟨activeOrders, w₂, hactive, h⟩ := runs_bindExcept_ok.mp h
  have hdb₂ := runs_activeOrders (runs_orFail_ok.mp hactive)
  obtain ⟨plan, w₃, hplan, h⟩ := runs_bindExcept_ok.mp h
  obtain ⟨hsame₃, hplan⟩ := runs_planReconciliation (runs_baseExcept.mp hplan)
  rw [hdb₂] at hsame₃ hplan
  rw [Planned, hsame₁.unresolvedMutations, hsame₁.allIdentityLinks,
    hsame₁.expectedPositions] at hplan
  obtain ⟨_, w₄, hcommit, h⟩ := runs_bindExcept_ok.mp h
  obtain ⟨_, w₅, hcompact, h⟩ := runs_bindExcept_ok.mp h
  have hsame₅ : w₄.db.SameRecords w₅.db :=
    sameRecords_of_runs (leaves_store (.compact _ _) rfl trivial).orFail
      (runs_baseExcept.mp hcompact)
  obtain ⟨hreport, rfl⟩ := h
  exact ⟨opening, activeOrders, plan, w₃.db, w₄.db, haccounts, hplan, hsame₁.trans hsame₃,
    runs_commit (runs_orFail_ok.mp hcommit), hsame₅, Except.ok.inj hreport⟩

end

end VoxTrader.Runtime
