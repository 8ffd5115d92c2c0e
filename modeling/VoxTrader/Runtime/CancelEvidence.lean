import VoxTrader.Runtime.Evidence
import VoxTrader.Runtime.LinkNames

/-!
# What became of a cancellation

A cancellation whose answer was lost is resolved by the order or stop it was to cancel. The
journal row of a cancellation does not say which one that is, and its evidence does not either:
only the links of the request do. The links are stored with an acknowledgement, and there was
none, so no reconciliation resolves the row, whatever the broker reports and whatever runs beside.

## Main definitions

* `MutationKind.cancels` — mutations that cancel.
* `leavesLost` — an operation stores no acknowledgement of a cancellation.
* `ReportsTerminal` — the broker reports what a command cancels as terminal.

## Main results

* `lost_cancel_is_never_resolved` — no reconciliation of any run resolves a lost cancellation.
* `lost_cancel_stays_unknown` — a lost cancellation is not resolved by the terminal order.
-/

namespace VoxTrader.Runtime

open Process System

/-! ## What resolves a cancellation -/

/-- Mutations that cancel. -/
def MutationKind.cancels : MutationKind → Bool
  | cancelOrder | cancelStopOrder => true
  | _ => false

section

variable {id : String} {runtimeEpoch : ℕ} {now : I64} {mutation : MutationRecord}
  {existing : BrokerIdentityLinks} {snapshot : BrokerSnapshot} {direct : Option OrderFact}
  {linked : List BrokerIdentityLinks}

/-- **Nothing resolves a cancellation without links.** -/
lemma resolveMutation_cancel (hkind : mutation.kind.cancels = true)
    (hunlinked : ∀ links ∈ linked, links.logicalRequestId ≠ mutation.logicalRequestId) :
    resolveMutation runtimeEpoch now mutation (existingLinks linked mutation.logicalRequestId)
      snapshot direct = none := by
  have hexisting : existingLinks linked mutation.logicalRequestId =
      ⟨mutation.logicalRequestId, none, none, none, [], []⟩ := by
    have hfind : linked.find? (·.logicalRequestId = mutation.logicalRequestId) = none :=
      List.find?_eq_none.mpr fun links hlinks => by simpa using hunlinked links hlinks
    rw [existingLinks, hfind, Option.getD_none]
  rw [hexisting]
  rcases hresult : resolveMutation runtimeEpoch now mutation
    ⟨mutation.logicalRequestId, none, none, none, [], []⟩ snapshot direct with _ | ⟨record, links⟩
  · rfl
  obtain ⟨_, _, -, hfrom⟩ := resolveMutation_cases hresult
  cases hkinds : mutation.kind <;> rw [hkinds] at hkind <;> try cases hkind
  all_goals
    cases hfrom with
    | order _ hmatch => simp [orderEvidenceResolves, hkinds] at hmatch
    | stop _ hmatch => cases hmatch
    | operation _ hmatch => simp [operationEvidenceResolves, hkinds] at hmatch
    | event _ hmatch => simp [streamEvidenceResolves, hkinds] at hmatch

/-- Nothing was found out about the request. -/
structure Resolution.Spares (id : String) (found : Resolution) : Prop where
  records : ∀ record ∈ found.records, record.logicalRequestId ≠ id
  links : ∀ links ∈ found.links, links.logicalRequestId ≠ id

/-- **The search finds out nothing about a cancellation without links**, by induction on the
mutations that are left. -/
lemma resolveAll_spares (hunlinked : ∀ links ∈ linked, links.logicalRequestId ≠ id)
    {mutations : List MutationRecord} : ∀ (directs : List (Option OrderFact)) (found : Resolution),
      (∀ m ∈ mutations, m.logicalRequestId = id → m.kind.cancels = true) → found.Spares id →
      (resolveAll runtimeEpoch now snapshot linked mutations directs found).Spares id := by
  induction mutations with
  | nil => exact fun _ _ _ hfound => hfound
  | cons mutation rest ih =>
    intro directs found hkinds hfound
    obtain ⟨hkind, hrest⟩ := List.forall_mem_cons.mp hkinds
    simp only [resolveAll]
    split
    · rename_i record link hresolved
      have hother : mutation.logicalRequestId ≠ id := by
        rintro rfl
        rw [resolveMutation_cancel (hkind rfl) hunlinked] at hresolved
        cases hresolved
      obtain ⟨_, _, _, _, rfl⟩ := resolveMutation_reconciles hresolved
      have hlink := (resolveMutation_links_id hresolved).trans existingLinks_id
      refine ih _ _ hrest ⟨fun record hrecord => ?_, fun links hlinks => ?_⟩
      · rcases List.mem_append.mp hrecord with hrecord | hrecord
        · exact hfound.records record hrecord
        · rw [List.mem_singleton.mp hrecord]
          exact hother
      · rcases List.mem_append.mp hlinks with hlinks | hlinks
        · exact hfound.links links hlinks
        · rw [List.mem_singleton.mp hlinks, hlink]
          exact hother
    · exact ih _ _ hrest ⟨hfound.records, hfound.links⟩

end

/-- **An operation keeps the kinds of the rows**, apart from a row that it inserts. -/
lemma execOp_kinds {R : Interface} {side : RiskSide R} {scope : RuntimeScope}
    {who : ℕ} {site : Site}
    {choice : Choice side.Choice} {w w' : World side.State} {op : (full R).Op} {r : (full R).Res op}
    (h : execOp side scope op who site choice w = some (w', r)) : ∀ row' ∈ w'.db.journal,
      op = .inr (.insertMutation row') ∨ ∃ row ∈ w.db.journal,
        row'.logicalRequestId = row.logicalRequestId ∧ row'.kind = row.kind := by
  intro row' hrow'
  have hrest : w'.db.journal = w.db.journal → ∃ row ∈ w.db.journal,
      row'.logicalRequestId = row.logicalRequestId ∧ row'.kind = row.kind :=
    fun hjournal => ⟨row', hjournal ▸ hrow', rfl, rfl⟩
  have hkept : writtenBy op .journal = false → w'.db.journal = w.db.journal :=
    execOp_leaves h .journal
  rcases op with ((op | op) | op) | op
  · exact .inr (hrest (hkept op.written_journal))
  · exact .inr (hrest (hkept rfl))
  · cases op with
    | activeOrders => exact .inr (hrest (hkept rfl))
    | commitReconciliation =>
      rcases transaction_cases (Option.some.inj h) with ⟨rfl, _⟩ | ⟨_, db, hop, rfl, -⟩
      · exact .inr (hrest rfl)
      · obtain ⟨db', hcommit, hdb⟩ := Except.map_eq_ok.mp hop
        obtain rfl := (Prod.mk.inj hdb).2
        obtain ⟨f, hf, hrows⟩ := commit_rows hcommit
        obtain ⟨row, hrow, rfl⟩ := List.mem_map.mp (hf ▸ hrow')
        exact .inr ⟨row, hrow, (hrows row).id, (hrows row).kind⟩
  · cases op with
    | insertMutation record =>
      rcases transaction_cases (Option.some.inj h) with ⟨rfl, _⟩ | ⟨_, db, hop, rfl, -⟩
      · exact .inr (hrest rfl)
      · obtain ⟨db', hinsert, hdb⟩ := Except.map_eq_ok.mp hop
        obtain rfl := (Prod.mk.inj hdb).2
        simp only [RuntimeDb.insertMutation, Except.seq_eq_ok, Except.exists_unit_ok] at hinsert
        obtain ⟨_, hinsert⟩ := hinsert
        split_ifs at hinsert
        cases hinsert
        rcases List.mem_append.mp hrow' with hrow' | hrow'
        · exact .inr ⟨row', hrow', rfl, rfl⟩
        · exact .inl (by rw [List.mem_singleton.mp hrow'])
    | transitionMutation =>
      rcases transaction_cases (Option.some.inj h) with ⟨rfl, _⟩ | ⟨_, db, hop, rfl, -⟩
      · exact .inr (hrest rfl)
      · obtain ⟨_, _, -, -, -, rfl⟩ := RuntimeDb.transitionMutation_row hop
        obtain ⟨row, hrow, rfl⟩ := Rows.mem_update.mp hrow'
        exact .inr ⟨row, hrow, by split_ifs <;> exact ⟨rfl, rfl⟩⟩
    | dispatchOnce => exact .inr (hrest (hkept rfl))

/-! ## Runs in which an answer is lost -/

/-- The operation stores no acknowledgement of the request, and inserts the request as a
cancellation only. -/
def leavesLost {R : Interface} (id : String) : (full R).Op → Bool
  | .inl (.inl (.inl (.store (.upsertIdentityLinks links _)))) => links.logicalRequestId ≠ id
  | .inr (.insertMutation record) => record.logicalRequestId ≠ id || record.kind.cancels
  | _ => true

/-- A database in which the request is at most a cancellation, without links. -/
structure RuntimeDb.Lost (id : String) (db : RuntimeDb) : Prop where
  unlinked : ∀ row ∈ db.identities, row.logicalRequestId ≠ id
  cancels : ∀ row ∈ db.journal, row.logicalRequestId = id → row.kind.cancels = true

/-- What a process has read is as lost. -/
def Reading.Lost (id : String) : Reading → Prop
  | .underway readings => (∀ links ∈ readings.linked, links.logicalRequestId ≠ id) ∧
      ∀ m ∈ readings.listed, m.logicalRequestId = id → m.kind.cancels = true
  | _ => True

section

variable {id : String} {R : Interface} {side : RiskSide R} {scope : RuntimeScope}
  {port : RiskPort R} {op : (full R).Op} {r : (full R).Res op} {g : Reading}

/-- The links that are read of such a database are of other requests. -/
lemma RuntimeDb.Lost.linked {db : RuntimeDb} {scopeKey : String} (h : db.Lost id) :
    ∀ links ∈ db.allIdentityLinks scopeKey, links.logicalRequestId ≠ id := by
  intro links hlinks
  obtain ⟨row, hrow, -, rfl⟩ := RuntimeDb.mem_allIdentityLinks.mp hlinks
  exact h.unlinked row hrow

/-- A plan that is made of such readings spares the request. -/
lemma planOf_spares {readings : Readings} {plan : Plan} (hg : Reading.Lost id (.underway readings))
    (hplan : PlanOf scope readings plan) :
    (∀ record ∈ plan.resolved, record.logicalRequestId ≠ id) ∧
      ∀ links ∈ plan.links, links.logicalRequestId ≠ id := by
  obtain ⟨runtimeEpoch, opening, stopOrders, expectations, rfl⟩ := hplan
  have hfound : (readings.found runtimeEpoch opening stopOrders).Spares id :=
    resolveAll_spares hg.1 _ _ hg.2
      ⟨fun _ h => absurd h List.not_mem_nil, fun _ h => absurd h List.not_mem_nil⟩
  exact ⟨hfound.records, hfound.links⟩

/-- The commit of a reconciliation with such readings spares it too. -/
lemma commit_spares {checkpoint : ReconciliationCheckpoint} {resolved : List MutationRecord}
    {links : List BrokerIdentityLinks} {state : RuntimeState} {reason : ReasonCode}
    (hpre : (readingDiscipline R scope).pre
      (.inl (.inr (.commitReconciliation checkpoint resolved links state reason))) g)
    (hg : g.Lost id) : (∀ record ∈ resolved, record.logicalRequestId ≠ id) ∧
      ∀ link ∈ links, link.logicalRequestId ≠ id := by
  obtain ⟨readings, plan, rfl, hplan, hcommit⟩ := hpre
  obtain ⟨-, rfl, rfl, -, -⟩ := SnapshotOp.commitReconciliation.inj hcommit
  exact planOf_spares hg hplan

/-- Links of other requests leave the request without. -/
lemma unlinked_learns {written : List BrokerIdentityLinks} {db db' : RuntimeDb}
    (hwritten : ∀ links ∈ written, links.logicalRequestId ≠ id) (h : db.Learns written db')
    (hdb : ∀ row ∈ db.identities, row.logicalRequestId ≠ id) :
    ∀ row ∈ db'.identities, row.logicalRequestId ≠ id := by
  refine h.keeps (fun hsame hdb row hrow => hdb row (hsame.identities ▸ hrow))
    (fun links hlinks hupsert hdb => Rows.select_eq_none.mp ?_) hdb
  have hnone := Rows.select_eq_none.mpr hdb
  refine (identityOf_upsertLinks hupsert id).trans ?_
  rwa [if_neg (Ne.symm (hwritten links hlinks))]

/-- **An operation leaves the request lost.** -/
lemma execOp_lost {who : ℕ} {site : Site} {choice : Choice side.Choice} {w w' : World side.State}
    (hpre : (readingDiscipline R scope).pre op g) (hg : g.Lost id)
    (hop : leavesLost id op = true) (h : execOp side scope op who site choice w = some (w', r))
    (hdb : w.db.Lost id) : w'.db.Lost id := by
  refine ⟨?_, fun row' hrow' hid => ?_⟩
  · rcases execOp_learns h with hlearns | hlearns
    · exact unlinked_learns (fun _ h => by cases h) hlearns hdb.unlinked
    · refine unlinked_learns (fun links hlinks => ?_) hlearns hdb.unlinked
      unfold writtenLinks at hlinks
      split at hlinks
      · rw [List.mem_singleton.mp hlinks]
        exact of_decide_eq_true hop
      · exact (commit_spares hpre hg).2 links hlinks
      · cases hlinks
  · rcases execOp_kinds h row' hrow' with rfl | ⟨row, hrow, hid', hkind⟩
    · simpa [leavesLost, hid] using hop
    · rw [hkind]
      exact hdb.cancels row hrow (hid'.symm.trans hid)

/-- Readings of such a database are lost as well. -/
lemma reading_lost {who : ℕ} {site : Site} {choice : Choice side.Choice} {w w' : World side.State}
    (h : execOp side scope op who site choice w = some (w', r)) (hdb : w.db.Lost id)
    (hg : g.Lost id) : ((readingDiscipline R scope).next op r g).Lost id := by
  have hadd : ∀ f : Readings → Readings, (∀ readings, Reading.Lost id (.underway readings) →
      Reading.Lost id (.underway (f readings))) → (g.add f).Lost id := by
    intro f hf
    cases g with
    | underway readings => exact hf readings hg
    | dispatching | committed => exact trivial
  rcases op with ((op | op) | op) | op
  · cases op with
    | external question =>
      cases question with
      | operationsPage | orderState =>
        rcases r with _ | answer
        · exact hg
        · exact hadd _ fun _ h => h
      | _ => exact hg
    | volatile => exact hg
    | store op =>
      cases op with
      | unresolvedMutations =>
        rcases r with _ | listed
        · exact hg
        refine hadd _ fun readings h' => ⟨h'.1, fun m hm hid => ?_⟩
        rcases transaction_cases (Option.some.inj h) with ⟨-, _, hr⟩ | ⟨_, db, hop, -, hr⟩
        · cases hr
        · cases hr
          obtain ⟨_, hlisted, heq⟩ := Except.map_eq_ok.mp hop
          cases heq
          exact hdb.cancels m ((RuntimeDb.mem_unresolvedMutations hlisted).mp hm).1 hid
      | allIdentityLinks =>
        rcases r with _ | linked
        · exact hg
        refine hadd _ fun readings h' => ⟨?_, h'.2⟩
        rcases transaction_cases (Option.some.inj h) with ⟨-, _, hr⟩ | ⟨_, db, hop, -, hr⟩
        · cases hr
        · cases hr
          rw [← (Except.pair_inj hop).1]
          exact hdb.linked
      | _ => exact hg
  · exact hg
  · cases op with
    | activeOrders =>
      rcases r with _ | orders
      · exact hg
      · exact ⟨fun _ h => absurd h List.not_mem_nil, fun _ h => absurd h List.not_mem_nil⟩
    | commitReconciliation => cases g <;> exact trivial
  · exact hg

variable {who : ℕ} {site : Site} {allowed : Choice side.Choice → Prop} {w w' : World side.State}
  {runtimeEpoch : ℕ}

/-- What was searched for in vain alone. -/
lemma Searched.spares {now : I64} {snapshot : BrokerSnapshot} {links : List BrokerIdentityLinks}
    {listed : List MutationRecord} {found : Resolution}
    (h : Searched allowed runtimeEpoch now snapshot links listed found)
    (hunlinked : ∀ link ∈ links, link.logicalRequestId ≠ id)
    (hkinds : ∀ m ∈ listed, m.logicalRequestId = id → m.kind.cancels = true) :
    id ∉ found.records.map MutationRecord.logicalRequestId := by
  induction h with
  | nil => exact List.not_mem_nil
  | resolved hout _ ih =>
    obtain ⟨hkind, hrest⟩ := List.forall_mem_cons.mp hkinds
    obtain ⟨_, _, hresolved⟩ := hout
    obtain ⟨_, _, _, _, rfl⟩ := resolveMutation_reconciles hresolved
    rw [List.map_cons, List.mem_cons, not_or]
    refine ⟨?_, ih hrest⟩
    rintro rfl
    rw [resolveMutation_cancel (hkind rfl) hunlinked] at hresolved
    cases hresolved
  | unresolved _ _ ih => exact ih (List.forall_mem_cons.mp hkinds).2

/-- **A reconciliation that runs alone lists a lost cancellation as unresolved**, and leaves its
row as it is. -/
lemma reconcile_lost {report : ReconciliationReport} {record : MutationRecord}
    (hlost : w.db.Lost record.logicalRequestId) (hrow : record ∈ w.db.journal)
    (hscope : record.scopeKey = scope.key) (hunresolved : record.state.safetyUnresolved = true)
    (h : Runs (aloneSnapshot side scope who site allowed)
      (reconcile scope runtimeEpoch).run w (.ok report) w') :
    w'.db.journalState record.logicalRequestId = some record.state ∧
      record.logicalRequestId ∈ report.unresolvedLogicalRequestIds := by
  obtain ⟨opening, activeOrders, plan, before, after, -, ⟨stopOrders, operations, listed, found,
    -, hlisted, hsearched, rfl⟩, hbefore, ⟨state, reason, hcommit⟩, hafter, rfl⟩ := runs_reconcile h
  have hmem : record ∈ listed :=
    (RuntimeDb.mem_unresolvedMutations hlisted).mpr ⟨hrow, hscope, hunresolved⟩
  have hspared := hsearched.spares hlost.linked fun m hm hid =>
    hlost.cancels m ((RuntimeDb.mem_unresolvedMutations hlisted).mp hm).1 hid
  refine ⟨?_, (hsearched.each record hmem).resolve_right hspared⟩
  obtain ⟨f, hf, hrows⟩ := commit_rows hcommit
  have hafterRow : f record ∈ w'.db.journal := by
    rw [hafter.journal, hf, hbefore.journal]
    exact List.mem_map_of_mem hrow
  rw [RuntimeDb.journalState,
    (Rows.select_eq_some w'.db.journalIds).mpr ⟨hafterRow, (hrows record).id⟩, Option.map_some,
    (hrows record).state]
  exact congrArg some (if_neg hspared)

/-- **No reconciliation resolves a cancellation whose answer was lost**, in any run of any
coordinators, calls and reconciliations side by side, as long as no acknowledgement of it is
stored: every commit leaves its row alone. And whenever its row is unresolved, a reconciliation
that succeeds lists it as unresolved and leaves it as it is, whatever the broker reports.

**Proof sketch.** The links of a request are written by an acknowledgement or by a commit that
resolves the request (`execOp_learns`). So a cancellation whose answer was lost has none, in the
database (`execOp_lost`) and in what the reconciliations have read (`reading_lost`), and without
links nothing resolves it (`resolveMutation_cancel`). -/
theorem lost_cancel_is_never_resolved {c₀ c : (Timeline side scope port).Config}
    (hthreads : c₀.threads = []) (htrace : c₀.state.trace = [])
    (hfirst : c₀.state.state.db.Lost id) (hreach : Reach (fun _ _ => True) c₀ c)
    (hops : ∀ e ∈ c.state.trace, leavesLost id e.op = true) :
    (∀ e ∈ c.state.trace, ∀ checkpoint resolved links state reason,
      e.op = .inl (.inr (.commitReconciliation checkpoint resolved links state reason)) →
      ∀ record ∈ resolved, record.logicalRequestId ≠ id) ∧
    ∀ record ∈ c.state.state.db.journal, record.logicalRequestId = id →
      record.scopeKey = scope.key → record.state.safetyUnresolved = true →
      ∀ who site allowed runtimeEpoch report w',
        Runs (aloneSnapshot side scope who site allowed) (reconcile scope runtimeEpoch).run
          c.state.state (.ok report) w' →
        w'.db.journalState id = some record.state ∧ id ∈ report.unresolvedLogicalRequestIds := by
  have hfirstReading : ∀ job, Reading.Lost id (.first job) := fun job => by
    cases job <;> exact trivial
  obtain ⟨hlost, hspared⟩ := readings_reach
    (E := fun op => ∀ checkpoint resolved links state reason,
      op = .inl (.inr (.commitReconciliation checkpoint resolved links state reason)) →
      ∀ record ∈ resolved, record.logicalRequestId ≠ id)
    (fun hpre hg hop hexec hdb => ⟨fun checkpoint resolved links state reason hcommit =>
      (commit_spares (hcommit ▸ hpre) hg).1, execOp_lost hpre hg hop hexec hdb,
      fun _ => reading_lost hexec hdb⟩) hfirstReading hthreads htrace hfirst hreach hops
  refine ⟨hspared, ?_⟩
  rintro record hrow rfl hscope hunresolved who site allowed runtimeEpoch report w' h
  exact reconcile_lost hlost hrow hscope hunresolved h

end

/-! ## A lost cancellation -/

/-- Cancel an order. -/
def cancelSeven : RuntimeExecutionCommand := .cancelOrder ⟨"account-1", "broker-7", none⟩

/-- Cancel a stop order. -/
def cancelStopSeven : RuntimeExecutionCommand := .cancelStopOrder ⟨"account-1", "stop-7"⟩

/-- Whenever the broker answers for the request, it reports what the command cancels as
terminal. -/
def ReportsTerminal (answer : (question : External) → question.Res) (logicalRequestId : String) :
    RuntimeExecutionCommand → Prop
  | .cancelOrder command => ∀ direct,
      answer (.orderState (some command.orderId) logicalRequestId) = .ok direct →
      ∃ order, direct = some order ∧ order.brokerOrderId = command.orderId ∧
        order.status.terminal = true
  | .cancelStopOrder command => ∀ since stops, answer (.stopOrders since) = .ok stops →
      (∃ stop ∈ stops, stop.brokerStopOrderId = command.brokerStopOrderId) ∧
        ∀ stop ∈ stops, stop.brokerStopOrderId = command.brokerStopOrderId →
          stop.status.terminal = true
  | _ => False

/-- A risk port that approves maintenance. -/
def maintenancePort : RiskPort ⟨Empty, Empty.elim⟩ :=
  { approvingPort with admitCommand := fun _ _ _ => return ⟨"decision-1", none, 1, .lit 0⟩ }

/-- The answer to a command is lost. -/
def lostReply : Choice Unit :=
  { plainChoice () with reply := .error ⟨.transient, "deadline exceeded"⟩ }

/-- The broker reports the order, whichever way it is asked, and the stop order as cancelled. -/
def reportedCancelled : Choice Unit :=
  { plainChoice () with
    answer := fun
      | .orderState _ _ => .ok (some ⟨"account-1", "broker-7", some "request-7", "instrument-1",
          some .buy, .lit 10, .lit 0, .cancelled⟩)
      | .stopOrders _ => .ok [⟨"account-1", "stop-7", "instrument-1", .canceled, none, none⟩]
      | question => plainAnswer question }

/-- A coordinator that is ready, and nothing else. -/
def readyWorld : World Unit := ⟨readyDb, [readyInstance], (), [], [], []⟩

/-- A ready coordinator with that port, before any call. -/
def maintenanceTimeline : (Timeline approvingSide fixtureScope maintenancePort).Config :=
  ⟨⟨readyWorld, []⟩, []⟩

/-- The command is dispatched and its answer is lost. -/
def loseAnswer (command : RuntimeExecutionCommand) :
    List (Timeline approvingSide fixtureScope maintenancePort).Label :=
  .start (0, .dispatch .sandboxMutation command "request-2" "correlation-2") ::
    List.replicate 18 (.run 0 lostReply)

/-- A reconciliation succeeds while the broker reports what was cancelled. Its report lists the
request, whose row is still unknown. -/
def staysUnknown (w : World Unit) : Bool :=
  ((reconcile fixtureScope 1).run.play (fun op =>
    execOp approvingSide fixtureScope (.inl op) 0 ⟨0, .start⟩ reportedCancelled) w).any fun
  | (.ok report, w') => "request-2" ∈ report.unresolvedLogicalRequestIds ∧
      w'.db.journalState "request-2" = some .unknownAfterDispatch
  | (.error _, _) => false

/-- **A lost cancellation stays unknown**, of an order as well as of a stop order: it was sent, the
broker reports what it cancels as terminal, and a reconciliation succeeds. -/
theorem lost_cancel_stays_unknown :
    (ReportsTerminal reportedCancelled.answer "request-2" cancelSeven ∧
      ∃ c, maintenanceTimeline.run (loseAnswer cancelSeven) = some c ∧
        .sent 0 "request-2" .unknownAfterDispatch ∈ c.state.state.log ∧
        staysUnknown c.state.state = true) ∧
    ReportsTerminal reportedCancelled.answer "request-2" cancelStopSeven ∧
      ∃ c, maintenanceTimeline.run (loseAnswer cancelStopSeven) = some c ∧
        .sent 0 "request-2" .unknownAfterDispatch ∈ c.state.state.log ∧
        staysUnknown c.state.state = true := by
  refine ⟨⟨?_, by decide +kernel⟩, ?_, by decide +kernel⟩
  · intro direct hdirect
    cases hdirect
    exact ⟨_, rfl, rfl, rfl⟩
  · intro since stops hstops
    cases hstops
    exact ⟨⟨_, List.mem_singleton_self _, rfl⟩, fun stop hstop _ => by
      rw [List.mem_singleton.mp hstop]
      rfl⟩

/-- The operation is the commit of a reconciliation. -/
def commits {R : Interface} : (full R).Op → Bool
  | .inl (.inr (.commitReconciliation ..)) => true
  | _ => false

/-- The cancellation is lost, a reconciliation commits, and it leaves the row alone. -/
theorem lost_cancel_spared : ∃ c, maintenanceTimeline.run (loseAnswer cancelSeven ++
        .start (0, .forceReconciliation .reconciliationStarted "operator") ::
          List.replicate 30 (.run 1 reportedCancelled)) = some c ∧
      c.state.state.db.journalState "request-2" = some .unknownAfterDispatch ∧
      (∃ e ∈ c.state.trace, commits e.op = true) ∧
      ∀ e ∈ c.state.trace, ∀ checkpoint resolved links state reason,
        e.op = .inl (.inr (.commitReconciliation checkpoint resolved links state reason)) →
        ∀ record ∈ resolved, record.logicalRequestId ≠ "request-2" := by
  obtain ⟨c, hrun, hstate, hcommit, hops⟩ : ∃ c,
      maintenanceTimeline.run (loseAnswer cancelSeven ++
        .start (0, .forceReconciliation .reconciliationStarted "operator") ::
          List.replicate 30 (.run 1 reportedCancelled)) = some c ∧
      c.state.state.db.journalState "request-2" = some .unknownAfterDispatch ∧
      (∃ e ∈ c.state.trace, commits e.op = true) ∧
      ∀ e ∈ c.state.trace, leavesLost "request-2" e.op = true := by
    decide +kernel
  have hfirst : maintenanceTimeline.state.state.db.Lost "request-2" :=
    ⟨fun _ h => absurd h List.not_mem_nil, fun _ h => absurd h List.not_mem_nil⟩
  exact ⟨c, hrun, hstate, hcommit,
    (lost_cancel_is_never_resolved rfl rfl hfirst (Config.reach_of_run hrun) hops).1⟩

end VoxTrader.Runtime
