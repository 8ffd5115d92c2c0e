import VoxTrader.Runtime.AtMostOnce
import VoxTrader.Runtime.SoloReconcile

/-!
# A ready runtime agrees with its database

A reconciliation checks the broker's snapshot against links it has in memory, where the links of a
resolved request replace the old ones as a whole. The commit merges the same links into the
database, one identity after another. Both ways of adding them agree on every link the check has
seen, so what a report in state `READY` found to match also matches what the database holds then.

## Main definitions

* `IdentityRow.Carries` — a row says at least what links say.
* `RuntimeDb.LinksInScope` — the links of a scope's requests are links of the scope.

## Main results

* `mem_mergeLinks` — where the links of a check come from.
* `carried_of_commit` — the commit carries all of them.
* `commit_rows`, `commit_links` — what a commit makes of the journal and of the links.
* `ready_report_agrees` — a ready report agrees with the database it leaves behind.
-/

namespace VoxTrader.Runtime

open BrokerIdentityLinks (logicalRequestId)

/-! ## The links of a check -/

section Merge

variable {link : BrokerIdentityLinks} {links : List BrokerIdentityLinks}

/-- The entry of a request is the first one, and it is replaced. -/
lemma mergeLink_of_mem (h : links.any (·.logicalRequestId = link.logicalRequestId)) :
    ∃ before old after, links = before ++ old :: after ∧
      old.logicalRequestId = link.logicalRequestId ∧
      mergeLink links link = before ++ link :: after := by
  unfold mergeLink
  rw [if_pos h, List.span_eq_takeWhile_dropWhile]
  generalize hp : (fun l : BrokerIdentityLinks =>
    decide (l.logicalRequestId ≠ link.logicalRequestId)) = p
  have hsplit := List.takeWhile_append_dropWhile (p := p) (l := links)
  rcases hrest : links.dropWhile p with _ | ⟨old, after⟩
  · obtain ⟨old, hold, hid⟩ := List.any_eq_true.mp h
    rw [hrest, List.append_nil] at hsplit
    rw [← hsplit] at hold
    have hnot := List.all_eq_true.mp List.all_takeWhile old hold
    rw [← hp] at hnot
    exact absurd (of_decide_eq_true hid) (of_decide_eq_true hnot)
  · refine ⟨_, old, after, ?_, ?_, rfl⟩
    · rw [hrest] at hsplit
      exact hsplit.symm
    · have hnot := List.head_dropWhile_not (p := p) (l := links) (by rw [hrest]; simp)
      simp only [hrest, List.head_cons] at hnot
      simpa [← hp] using hnot

/-- Merging keeps one entry for every request. -/
lemma mergeLink_unique (hu : Rows.Unique logicalRequestId links) :
    Rows.Unique logicalRequestId (mergeLink links link) := by
  by_cases h : links.any (·.logicalRequestId = link.logicalRequestId)
  · obtain ⟨before, old, after, rfl, hid, hmerged⟩ := mergeLink_of_mem h
    rw [hmerged]
    simpa [Rows.Unique, hid] using hu
  · rw [mergeLink, if_neg h]
    refine hu.append (Rows.select_eq_none.mpr fun l hl => ?_)
    simpa using fun heq => h (List.any_eq_true.mpr ⟨l, hl, by simpa using heq⟩)

/-- An entry after a merge is the new one, or an old one of another request. -/
lemma mem_mergeLink {l : BrokerIdentityLinks}
    (hu : Rows.Unique logicalRequestId links) (hl : l ∈ mergeLink links link) :
    l = link ∨ l ∈ links ∧ l.logicalRequestId ≠ link.logicalRequestId := by
  by_cases h : links.any (·.logicalRequestId = link.logicalRequestId)
  · obtain ⟨before, old, after, rfl, hid, hmerged⟩ := mergeLink_of_mem h
    rw [hmerged] at hl
    simp only [Rows.Unique, List.map_append, List.map_cons, List.nodup_append, List.nodup_cons,
      List.mem_map, List.mem_cons] at hu
    rcases List.mem_append.mp hl with hl | hl
    · refine .inr ⟨by simp [hl], fun heq => ?_⟩
      exact hu.2.2 _ ⟨l, hl, rfl⟩ _ (.inl rfl) (heq.trans hid.symm)
    · rcases List.mem_cons.mp hl with rfl | hl
      · exact .inl rfl
      · refine .inr ⟨by simp [hl], fun heq => ?_⟩
        exact hu.2.1.1 ⟨l, hl, heq.trans hid.symm⟩
  · rw [mergeLink, if_neg h] at hl
    rcases List.mem_append.mp hl with hl | hl
    · exact .inr ⟨hl, fun heq => h (List.any_eq_true.mpr ⟨l, hl, by simpa using heq⟩)⟩
    · exact .inl (List.mem_singleton.mp hl)

/-- **The links of a check** are found ones, and existing ones of other requests. -/
lemma mem_mergeLinks (found : List BrokerIdentityLinks) :
    ∀ {existing : List BrokerIdentityLinks} {l : BrokerIdentityLinks},
      Rows.Unique logicalRequestId existing → l ∈ mergeLinks existing found →
      l ∈ found ∨ l ∈ existing ∧ ∀ link ∈ found, l.logicalRequestId ≠ link.logicalRequestId := by
  induction found with
  | nil => exact fun _ hl => .inr ⟨hl, nofun⟩
  | cons link rest ih =>
    intro existing l hu hl
    rw [mergeLinks, List.foldl_cons] at hl
    rcases ih (mergeLink_unique hu) hl with hl | ⟨hl, hother⟩
    · exact .inl (List.mem_cons_of_mem _ hl)
    rcases mem_mergeLink hu hl with rfl | ⟨hl, hne⟩
    · exact .inl List.mem_cons_self
    · exact .inr ⟨hl, List.forall_mem_cons.mpr ⟨hne, hother⟩⟩

end Merge

/-! ## The commit -/

/-- What a request's row says after links were added to it. -/
def IdentityRow.learned (scopeKey : String) (links : BrokerIdentityLinks) :
    Option IdentityRow → IdentityRow
  | none => ⟨links.logicalRequestId, scopeKey, links.brokerOrderId, links.replacementBrokerOrderId,
      links.brokerStopOrderId⟩
  | some old => { old with
      brokerOrderId := links.brokerOrderId.or old.brokerOrderId
      replacementBrokerOrderId := links.replacementBrokerOrderId.or old.replacementBrokerOrderId
      brokerStopOrderId := links.brokerStopOrderId.or old.brokerStopOrderId }

section Commit

variable {db db' : RuntimeDb} {scopeKey : String} {checkpoint : ReconciliationCheckpoint}

/-- Adding links rewrites the row of their request. -/
lemma identityOf_upsertLinks {links : BrokerIdentityLinks}
    (h : db.upsertLinks scopeKey links = .ok db') (id : String) :
    db'.identityOf id = if id = links.logicalRequestId then
      some (.learned scopeKey links (db.identityOf links.logicalRequestId))
      else db.identityOf id := by
  simp only [RuntimeDb.upsertLinks, Except.seq_eq_ok, Except.exists_unit_ok] at h
  have hdb := Except.ok.inj h.2
  have hlookup : db'.identityOf id = if id = links.logicalRequestId then
      some ((db.identityOf links.logicalRequestId).elim
        ⟨links.logicalRequestId, scopeKey, links.brokerOrderId, links.replacementBrokerOrderId,
          links.brokerStopOrderId⟩ fun old => .learned scopeKey links (some old))
      else db.identityOf id := by
    rw [← hdb]
    exact Rows.select_upsert fun _ => rfl
  rw [hlookup]
  cases db.identityOf links.logicalRequestId <;> rfl

/-- **Adding the links of several requests** rewrites the row of each. -/
lemma identityOf_foldlM (links : List BrokerIdentityLinks) :
    ∀ {db : RuntimeDb}, Rows.Unique logicalRequestId links →
      links.foldlM (fun db link => db.upsertLinks scopeKey link) db = .ok db' → ∀ id,
      db'.identityOf id =
        match Rows.select logicalRequestId id links with
        | some link => some (.learned scopeKey link (db.identityOf id))
        | none => db.identityOf id := by
  induction links with
  | nil =>
    intro db _ h id
    cases h
    rfl
  | cons link rest ih =>
    intro db hu h id
    rw [List.foldlM_cons, Except.seq_eq_ok] at h
    obtain ⟨db₁, hfirst, hrest⟩ := h
    have hu' := List.nodup_cons.mp hu
    rw [ih hu'.2 hrest id, identityOf_upsertLinks hfirst]
    by_cases hid : id = link.logicalRequestId
    · -- the others are of other requests
      have hnone : Rows.select logicalRequestId id rest = none := by
        refine Rows.select_eq_none.mpr fun other hother heq => hu'.1 ?_
        exact List.mem_map.mpr ⟨other, hother, heq.trans hid⟩
      have hsome : Rows.select logicalRequestId id (link :: rest) =
          some link := by
        simp [Rows.select, hid]
      rw [hnone, hsome, if_pos hid, hid]
    · have hskip : Rows.select logicalRequestId id (link :: rest) =
          Rows.select logicalRequestId id rest := by
        simp [Rows.select, Ne.symm hid]
      rw [hskip, if_neg hid]

/-- What a commit that resolves mutations makes of a row. -/
structure Committed (resolved : List MutationRecord) (row row' : MutationRecord) : Prop where
  id : row'.logicalRequestId = row.logicalRequestId
  scope : row'.scopeKey = row.scopeKey
  kind : row'.kind = row.kind
  state : row'.state = if row.logicalRequestId ∈ resolved.map MutationRecord.logicalRequestId then
    .reconciled else row.state

/-- Writing resolved mutations: the row of each is `RECONCILED`, and the others are as before. -/
lemma commitResolved_rows (resolved : List MutationRecord) :
    ∀ {db : RuntimeDb}, resolved.foldlM (RuntimeDb.commitResolved checkpoint) db = .ok db' →
      ∃ f, db'.journal = db.journal.map f ∧ ∀ row, Committed resolved row (f row) := by
  induction resolved with
  | nil =>
    intro db h
    cases h
    exact ⟨id, (List.map_id _).symm, fun row => ⟨rfl, rfl, rfl, rfl⟩⟩
  | cons record rest ih =>
    intro db h
    rw [List.foldlM_cons, Except.seq_eq_ok] at h
    obtain ⟨db₁, hfirst, hrest⟩ := h
    obtain ⟨f, hf, hrow⟩ := ih hrest
    simp only [RuntimeDb.commitResolved, Except.seq_eq_ok] at hfirst
    obtain ⟨_, _, _, _, hfirst⟩ := hfirst
    cases hfirst
    refine ⟨_, hf.trans List.map_map, fun row => ?_⟩
    obtain ⟨hid, hscope, hkind, hstate⟩ := hrow (if row.logicalRequestId = record.logicalRequestId
      then RuntimeDb.moved .reconciled record.brokerEvidenceRef record.reconciliationDisposition
        checkpoint.runtimeEpoch record.updatedAtUnixMs row else row)
    by_cases hmatch : row.logicalRequestId = record.logicalRequestId
    all_goals
      simp only [hmatch, if_true, if_false, RuntimeDb.moved] at hid hscope hkind hstate
      refine ⟨?_, ?_, ?_, ?_⟩
      all_goals simp [RuntimeDb.moved, *]

/-- What a commit makes of the journal. -/
lemma commit_rows {resolved : List MutationRecord} {links : List BrokerIdentityLinks}
    {state : RuntimeState} {reason : ReasonCode}
    (h : db.commitReconciliation checkpoint resolved links state reason = .ok db') :
    ∃ f, db'.journal = db.journal.map f ∧ ∀ row, Committed resolved row (f row) := by
  simp only [RuntimeDb.commitReconciliation, Except.seq_eq_ok, Except.exists_unit_ok] at h
  obtain ⟨_, db₁, hresolved, db₂, hlinks, h⟩ := h
  cases h
  have hjournal : db₂.journal = db₁.journal :=
    RuntimeDb.Leaves.foldlM (fun _ _ _ => RuntimeDb.upsertLinks_leaves) hlinks .journal rfl
  obtain ⟨f, hf, hrow⟩ := commitResolved_rows resolved hresolved
  exact ⟨f, hjournal.trans hf, hrow⟩

/-- **What a commit makes of the links.** -/
lemma commit_links {resolved : List MutationRecord} {links : List BrokerIdentityLinks}
    {state : RuntimeState} {reason : ReasonCode}
    (hu : Rows.Unique logicalRequestId links)
    (h : db.commitReconciliation checkpoint resolved links state reason = .ok db') :
    (∀ id, db'.identityOf id =
      match Rows.select logicalRequestId id links with
      | some link => some (.learned checkpoint.scopeKey link (db.identityOf id))
      | none => db.identityOf id) ∧
    db'.expectations = db.expectations := by
  simp only [RuntimeDb.commitReconciliation, Except.seq_eq_ok, Except.exists_unit_ok] at h
  obtain ⟨_, db₁, hresolved, db₂, hlinks, h⟩ := h
  cases h
  have hfirst := RuntimeDb.Leaves.foldlM (fun _ _ _ => RuntimeDb.commitResolved_leaves) hresolved
  have hsecond := RuntimeDb.Leaves.foldlM (fun _ _ _ => RuntimeDb.upsertLinks_leaves) hlinks
  have hidentities : db₁.identities = db.identities := hfirst .identities rfl
  refine ⟨fun id => ?_, (hsecond .expectations rfl).trans (hfirst .expectations rfl)⟩
  have hrow := identityOf_foldlM links hu hlinks id
  rw [RuntimeDb.identityOf, RuntimeDb.identityOf, hidentities] at hrow
  exact hrow

end Commit

/-- The row says at least what the links say. -/
structure IdentityRow.Carries (row : IdentityRow) (links : BrokerIdentityLinks) : Prop where
  order : ∀ id, links.brokerOrderId = some id → row.brokerOrderId = some id
  replacement : ∀ id, links.replacementBrokerOrderId = some id →
    row.replacementBrokerOrderId = some id
  stop : ∀ id, links.brokerStopOrderId = some id → row.brokerStopOrderId = some id

lemma IdentityRow.learned_carries (scopeKey : String) (links : BrokerIdentityLinks)
    (old : Option IdentityRow) : (IdentityRow.learned scopeKey links old).Carries links := by
  cases old with
  | none => exact ⟨fun _ h => h, fun _ h => h, fun _ h => h⟩
  | some =>
    refine ⟨fun id h => ?_, fun id h => ?_, fun id h => ?_⟩
    all_goals simp only [learned, h, Option.some_or]

/-- **Every link of the check is carried by the database after the commit**, in a row of the
scope unless the request had a row of another scope before. -/
lemma carried_of_commit {db db' : RuntimeDb} {scopeKey : String}
    {found : List BrokerIdentityLinks} {l : BrokerIdentityLinks}
    (hu : Rows.Unique logicalRequestId found)
    (hrows : ∀ id, db'.identityOf id =
      match Rows.select logicalRequestId id found with
      | some link => some (.learned scopeKey link (db.identityOf id))
      | none => db.identityOf id)
    (hl : l ∈ mergeLinks (db.allIdentityLinks scopeKey) found) :
    ∃ row ∈ db'.identities, row.Carries l ∧
      (row.scopeKey = scopeKey ∨ l ∈ found ∧ ∃ old ∈ db.identities,
        old.logicalRequestId = l.logicalRequestId ∧ old.scopeKey = row.scopeKey) := by
  have hrow := hrows l.logicalRequestId
  rcases mem_mergeLinks found (db.allIdentityLinks_unique scopeKey) hl with hl | ⟨hl, hother⟩
  · rw [(Rows.select_eq_some hu).mpr ⟨hl, rfl⟩] at hrow
    refine ⟨_, (Rows.mem_of_select hrow).1, IdentityRow.learned_carries _ _ _, ?_⟩
    rcases hold : db.identityOf l.logicalRequestId with _ | old
    · exact .inl rfl
    · obtain ⟨hmem, hid⟩ := Rows.mem_of_select hold
      exact .inr ⟨hl, old, hmem, hid, rfl⟩
  · rw [Rows.select_eq_none.mpr fun link hlink heq => hother link hlink heq.symm] at hrow
    obtain ⟨row, hmem, hscope, rfl⟩ := RuntimeDb.mem_allIdentityLinks.mp hl
    have hbefore : db.identityOf row.logicalRequestId = some row :=
      (Rows.select_eq_some db.identityIds).mpr ⟨hmem, rfl⟩
    rw [hbefore] at hrow
    exact ⟨row, (Rows.mem_of_select hrow).1, ⟨fun _ h => h, fun _ h => h, fun _ h => h⟩,
      .inl hscope⟩

/-! ## What was searched -/

section Searched

variable {R : Interface} {side : RiskSide R} {allowed : Choice side.Choice → Prop}
  {runtimeEpoch : ℕ} {now : I64} {snapshot : BrokerSnapshot} {links : List BrokerIdentityLinks}
  {listed : List MutationRecord} {found : Resolution}

/-- A mutation is resolved, or listed as unresolved. -/
lemma Searched.each (h : Searched allowed runtimeEpoch now snapshot links listed found) :
    ∀ mutation ∈ listed, mutation.logicalRequestId ∈ found.unresolvedIds ∨
      mutation.logicalRequestId ∈ found.records.map MutationRecord.logicalRequestId := by
  induction h with
  | nil => exact fun _ h => by cases h
  | resolved hout _ ih =>
    obtain ⟨_, _, hresolved⟩ := hout
    obtain ⟨_, _, _, _, rfl⟩ := resolveMutation_reconciles hresolved
    refine List.forall_mem_cons.mpr ⟨.inr (by simp [reconcileRecord]), fun m hm => ?_⟩
    exact (ih m hm).imp_right (List.mem_cons_of_mem _)
  | unresolved _ _ ih =>
    refine List.forall_mem_cons.mpr ⟨.inl List.mem_cons_self, fun m hm => ?_⟩
    exact (ih m hm).imp_left (List.mem_cons_of_mem _)

/-- The links that are found are of listed requests, in their order. -/
lemma Searched.links_sublist (h : Searched allowed runtimeEpoch now snapshot links listed found) :
    (found.links.map logicalRequestId).Sublist (listed.map MutationRecord.logicalRequestId) := by
  induction h with
  | nil => exact .slnil
  | resolved hout _ ih =>
    obtain ⟨_, _, hresolved⟩ := hout
    have hid := (resolveMutation_links_id hresolved).trans existingLinks_id
    simp only [List.map_cons, hid]
    exact ih.cons_cons _
  | unresolved _ _ ih => exact ih.cons _

end Searched

/-! ## Agreement -/

/-- Nothing is reported when all is well. -/
lemma reportIf_eq_nil {c : Bool} {detail : String} : reportIf c detail = [] ↔ c = false := by
  cases c <;> simp [reportIf]

variable {links : List BrokerIdentityLinks} {scope : RuntimeScope} {snapshot : BrokerSnapshot}
  {expectations : List DerivedPositionExpectation}

/-- **A snapshot without discrepancies** is one of the scope's account, its active orders and
stops are linked, its stops have a position, and its positions are the expected ones. -/
lemma validateSnapshot_eq_nil (h : validateSnapshot scope snapshot links expectations = []) :
    (∃ account, snapshot.accounts.filter (·.accountId = scope.brokerAccountId) = [account] ∧
      account.isOpen = true ∧ account.accessible = true) ∧
    (∀ order ∈ snapshot.activeOrders, order.status.active = true → ∃ link ∈ links,
      link.brokerOrderId = some order.brokerOrderId ∨
        link.replacementBrokerOrderId = some order.brokerOrderId) ∧
    (∀ stop ∈ snapshot.stopOrders, stop.status.isActive = true →
      (∃ link ∈ links, link.brokerStopOrderId = some stop.brokerStopOrderId) ∧
        quantityOf snapshot.positions stop.instrumentUid ≠ 0) ∧
    ∀ expectation ∈ expectations, quantityOf snapshot.positions expectation.instrumentUid =
        expectation.expectedQuantityUnits.val := by
  simp only [validateSnapshot, List.append_eq_nil_iff, reportIf_eq_nil, List.flatMap_eq_nil_iff,
    List.mem_filter, Bool.or_eq_false_iff, decide_eq_false_iff_not, not_not, ne_eq] at h
  obtain ⟨⟨⟨⟨⟨⟨⟨⟨⟨⟨⟨⟨hsingle, hopen⟩, -⟩, -⟩, -⟩, -⟩, -⟩, -⟩, -⟩, -⟩, horders⟩, hstops⟩,
    hexpected⟩ := h
  refine ⟨?_, fun order horder hactive => ?_, fun stop hstop hactive => ⟨?_, ?_⟩, hexpected⟩
  · obtain ⟨account, haccount⟩ := List.length_eq_one_iff.mp hsingle
    rw [haccount] at hopen
    simp only [List.all_cons, List.all_nil, Bool.and_true, Bool.not_eq_false',
      Bool.and_eq_true] at hopen
    exact ⟨account, haccount, hopen⟩
  · obtain ⟨link, hlink, hid⟩ := List.mem_flatMap.mp (horders order ⟨horder, hactive⟩)
    refine ⟨link, hlink, ?_⟩
    simpa using hid
  · obtain ⟨link, hlink, hid⟩ := List.mem_filterMap.mp (hstops stop ⟨hstop, hactive⟩).1
    exact ⟨link, hlink, hid⟩
  · exact (hstops stop ⟨hstop, hactive⟩).2

/-- A plan for a ready runtime has neither discrepancies nor unresolved mutations. -/
lemma makePlan_ready {runtimeEpoch : ℕ} {opening : Opening} {found : Resolution}
    (h : (makePlan scope runtimeEpoch opening snapshot links expectations
      found).report.resultingState = .ready) :
    validateSnapshot scope snapshot (mergeLinks links found.links) expectations = [] ∧
      found.unresolvedIds = [] := by
  simp only [makePlan] at h
  split_ifs at h with hempty
  rw [List.isEmpty_iff, List.append_eq_nil_iff, reportIf_eq_nil] at hempty
  refine ⟨hempty.1, ?_⟩
  simpa using hempty.2

/-- The row links an order to its request, as its order or as the replacement of its order. -/
def IdentityRow.LinksOrder (row : IdentityRow) (brokerOrderId : String) : Prop :=
  row.brokerOrderId = some brokerOrderId ∨ row.replacementBrokerOrderId = some brokerOrderId

/-- The rows with the links of the scope's own requests are rows of the scope. -/
def RuntimeDb.LinksInScope (db : RuntimeDb) (scopeKey : String) : Prop :=
  ∀ row ∈ db.identities, db.HasRow scopeKey row.logicalRequestId → row.scopeKey = scopeKey

section

variable {R : Interface} {side : RiskSide R} {scope : RuntimeScope} {who : ℕ} {site : Site}
  {allowed : Choice side.Choice → Prop} {w w' : World side.State} {runtimeEpoch : ℕ}

/-- **A ready report agrees with the database it leaves behind**, when nobody else wrote to it
during the reconciliation: no row of the scope is unresolved, the active orders and stops the
broker reported are linked, the stops protect a position, and the broker's positions are the
expected ones. The account of the scope is the only one of its id, open and accessible.

**Proof sketch.** A ready plan has no discrepancy and no unresolved mutation
(`makePlan_ready`), so every listed mutation has a record (`Searched.each`) and the commit makes
its row `RECONCILED`; a row that was not listed was resolved before (`commit_rows`). The check
saw the merged links, and each of those is carried by a row (`carried_of_commit`). -/
theorem ready_report_agrees {report : ReconciliationReport}
    (h : Process.Runs (aloneSnapshot side scope who site allowed)
      (reconcile scope runtimeEpoch).run w (.ok report) w')
    (hready : report.resultingState = .ready) :
    (∀ record ∈ w'.db.journal, record.scopeKey = scope.key →
      record.state ≠ .dispatching ∧ record.state ≠ .unknownAfterDispatch) ∧
    (∀ order ∈ report.activeOrders, order.status.active = true →
      ∃ row ∈ w'.db.identities, row.LinksOrder order.brokerOrderId ∧
        (w.db.LinksInScope scope.key → row.scopeKey = scope.key)) ∧
    (∀ stop ∈ report.activeStops, stop.status.isActive = true →
      (∃ row ∈ w'.db.identities, row.brokerStopOrderId = some stop.brokerStopOrderId ∧
        (w.db.LinksInScope scope.key → row.scopeKey = scope.key)) ∧
      quantityOf report.positions stop.instrumentUid ≠ 0) ∧
    (∀ expectation ∈ w'.db.expectedPositions scope.key,
      quantityOf report.positions expectation.instrumentUid =
        expectation.expectedQuantityUnits.val) ∧
    ∃ choice accounts account, allowed choice ∧ choice.answer .accounts = .ok accounts ∧
      accounts.filter (·.accountId = scope.brokerAccountId) = [account] ∧
      account.isOpen = true ∧ account.accessible = true := by
  obtain ⟨opening, activeOrders, plan, before, after, ⟨choice, hallowed, haccounts⟩,
    ⟨stopOrders, operations, listed, found, -, hlisted, hsearched, rfl⟩, hbefore,
    ⟨state, reason, hcommit⟩, hafter, rfl⟩ := runs_reconcile h
  obtain ⟨hagrees, hnone⟩ := makePlan_ready hready
  obtain ⟨⟨account, haccount⟩, horders, hstops, hexpected⟩ := validateSnapshot_eq_nil hagrees
  have hu : Rows.Unique logicalRequestId found.links :=
    (w.db.unresolvedMutations_unique hlisted).sublist hsearched.links_sublist
  obtain ⟨f, hf, hrows⟩ := commit_rows hcommit
  obtain ⟨hlinks, hexpectations⟩ := commit_links hu hcommit
  have hcarried : ∀ l ∈ mergeLinks (w.db.allIdentityLinks scope.key) found.links,
      ∃ row ∈ w'.db.identities, row.Carries l ∧
        (w.db.LinksInScope scope.key → row.scopeKey = scope.key) := by
    intro l hl
    rw [← hbefore.allIdentityLinks] at hl
    obtain ⟨row, hrow, hcarries, hscope⟩ := carried_of_commit hu hlinks hl
    refine ⟨row, hafter.identities ▸ hrow, hcarries, fun hown => ?_⟩
    rcases hscope with hscope | ⟨hl, old, hold, hid, hscope⟩
    · exact hscope
    · -- the request is listed, so it is one of the scope's
      have hmem := hsearched.links_sublist.subset (List.mem_map_of_mem hl)
      obtain ⟨mutation, hmutation, hmid⟩ := List.mem_map.mp hmem
      obtain ⟨hjournal, hkey, -⟩ := (RuntimeDb.mem_unresolvedMutations hlisted).mp hmutation
      rw [← hscope]
      exact hown old (hbefore.identities ▸ hold) ⟨mutation, hjournal, hmid.trans hid.symm, hkey⟩
  refine ⟨fun record hrecord hkey => ?_, fun order horder hactive => ?_,
    fun stop hstop hactive => ⟨?_, (hstops stop hstop hactive).2⟩, fun expectation hmem => ?_,
    choice, opening.accounts, account, hallowed, haccounts, haccount⟩
  · rw [hafter.journal, hf] at hrecord
    obtain ⟨row, hrow, rfl⟩ := List.mem_map.mp hrecord
    obtain ⟨-, hscope, -, hstate⟩ := hrows row
    have hresolved : (f row).state.safetyUnresolved = false := by
      rw [hstate]
      split_ifs with hnot
      · rfl
      · rw [hbefore.journal] at hrow
        by_contra hunresolved
        have hmem := (RuntimeDb.mem_unresolvedMutations hlisted).mpr
          ⟨hrow, hscope.symm.trans hkey, Bool.not_eq_false _ ▸ hunresolved⟩
        have heach := hsearched.each row hmem
        rw [hnone] at heach
        exact heach.elim (by simp) hnot
    constructor <;> intro heq <;> rw [heq] at hresolved <;> cases hresolved
  · obtain ⟨l, hl, hid⟩ := horders order horder hactive
    obtain ⟨row, hrow, hcarries, hscope⟩ := hcarried l hl
    exact ⟨row, hrow, hid.imp (hcarries.order _) (hcarries.replacement _), hscope⟩
  · obtain ⟨l, hl, hid⟩ := (hstops stop hstop hactive).1
    obtain ⟨row, hrow, hcarries, hscope⟩ := hcarried l hl
    exact ⟨row, hrow, hcarries.stop _ hid, hscope⟩
  · refine hexpected expectation ?_
    rw [hafter.expectedPositions] at hmem
    rwa [RuntimeDb.expectedPositions, hexpectations, hbefore.expectations] at hmem

end

/-- The database of a ready coordinator that does not know what became of one order. -/
def unknownDb : RuntimeDb :=
  { readyDb with
    journal := [⟨fixtureScope.key, "request-1", .postOrder, .unknownAfterDispatch,
      ⟨.postOrder, some "instrument-1", some (.lit 10), false, none⟩, none, "correlation-1", none,
      .lit 900, .lit 900, 1⟩]
    journalIds := List.nodup_singleton _ }

/-- The order is active at the broker. -/
def unknownWorld : World Unit :=
  ⟨unknownDb, [readyInstance], (), [⟨"account-1", "broker-1", some "request-1", "instrument-1",
    some .buy, .lit 10, .lit 0, .new⟩], [], []⟩

/-- A reconciliation finds the order: the runtime is ready, its row is resolved and the order is
linked. -/
theorem found_order_is_linked : ∃ report w', Process.Runs
      (aloneSnapshot approvingSide fixtureScope 0 ⟨0, .start⟩ (· = plainChoice ()))
      (reconcile fixtureScope 1).run unknownWorld (.ok report) w' ∧
      report.resultingState = .ready ∧
      (∀ record ∈ w'.db.journal, record.scopeKey = fixtureScope.key →
        record.state ≠ .dispatching ∧ record.state ≠ .unknownAfterDispatch) ∧
      ∃ order ∈ report.activeOrders, ∃ row ∈ w'.db.identities,
        row.LinksOrder order.brokerOrderId := by
  have hplay : ((reconcile fixtureScope 1).run.play (fun op => execOp approvingSide fixtureScope
      (.inl op) 0 ⟨0, .start⟩ (plainChoice ())) unknownWorld).any (fun result =>
        result.1.toOption.any fun report => report.resultingState = .ready &&
          report.activeOrders.any fun order => order.status.active) = true := by
    decide +kernel
  obtain ⟨⟨result, w'⟩, hrun, hready⟩ := (Option.any_eq_true _ _).mp hplay
  rcases result with _ | report
  · cases hready
  simp only [Except.toOption, Option.any_some, Bool.and_eq_true, decide_eq_true_eq,
    List.any_eq_true] at hready
  obtain ⟨hready, order, horder, hactive⟩ := hready
  have hruns : Process.Runs
      (aloneSnapshot approvingSide fixtureScope 0 ⟨0, .start⟩ (· = plainChoice ()))
      (reconcile fixtureScope 1).run unknownWorld (.ok report) w' := by
    refine Process.runs_of_play (fun op w w' r hop => ?_) hrun
    exact ⟨plainChoice (), w, rfl, rfl, hop⟩
  obtain ⟨hjournal, horders, -⟩ := ready_report_agrees hruns hready
  obtain ⟨row, hrow, hlinks, -⟩ := horders order horder hactive
  exact ⟨report, w', hruns, hready, hjournal, order, horder, row, hrow, hlinks⟩

end VoxTrader.Runtime
