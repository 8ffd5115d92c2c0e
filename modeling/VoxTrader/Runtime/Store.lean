import VoxTrader.Lib.Rows
import VoxTrader.Runtime.Ports

/-!
# The runtime store

The SQLite database behind a runtime: who owns a scope and in which epoch, the journal of
mutations, the broker identities linked to them, the last reconciliation and the broker events
that were already seen. Every operation is one transaction under the store's mutex, so a write is
a function from a database to either an error, which rolls everything back, or a result and the
next database.

Every write names the epoch of its writer and is refused unless that epoch owns the scope.

## Main definitions

* `RuntimeDb` — the tables, with their primary keys.
* `RuntimeDb.verifyEpoch` — the fence every write goes through.
* `RuntimeDb.insertMutation`, `RuntimeDb.transitionMutation`, `RuntimeDb.commitReconciliation` —
  the writes to the journal.

## Main results

* `RuntimeDb.insertMutation_eq_ok`, `RuntimeDb.transitionMutation_eq_ok`,
  `RuntimeDb.commitReconciliation_eq_ok` — what a write has checked and what it leaves.
-/

namespace VoxTrader.Runtime

open Except (seq_eq_ok stopIf exists_unit_ok stopIf_eq_ok orStop_eq_ok)

/-- The owner of a scope. -/
structure RuntimeInstance where
  scopeKey : String
  epoch : ℕ
  ownerId : String
  leaseActive : Bool
  lastState : RuntimeState
  lastReason : ReasonCode
deriving DecidableEq

/-- The broker identities linked to a mutation. -/
structure IdentityRow where
  logicalRequestId : String
  scopeKey : String
  brokerOrderId : Option String
  replacementBrokerOrderId : Option String
  brokerStopOrderId : Option String
deriving DecidableEq

/-- An operation or a fill linked to a mutation. -/
structure LinkedId where
  scopeKey : String
  logicalRequestId : String
  linkedId : String
deriving DecidableEq

/-- A broker event that was seen. -/
structure ProcessedBrokerEvent where
  scopeKey : String
  eventClass : BrokerEventClass
  stableEventId : String
  firstSeenAtUnixMs : I64
deriving DecidableEq

/-- The tables of the runtime store, with the primary keys of the three the journal rests on. -/
structure RuntimeDb where
  instances : List RuntimeInstance
  journal : List MutationRecord
  identities : List IdentityRow
  operationLinks : List LinkedId
  fillLinks : List LinkedId
  checkpoints : List ReconciliationCheckpoint
  events : List ProcessedBrokerEvent
  expectations : List DerivedPositionExpectation
  instanceKeys : Rows.Unique RuntimeInstance.scopeKey instances
  journalIds : Rows.Unique MutationRecord.logicalRequestId journal
  identityIds : Rows.Unique IdentityRow.logicalRequestId identities

namespace RuntimeDb

/-- The store before anything was written to it. -/
def empty : RuntimeDb where
  instances := []
  journal := []
  identities := []
  operationLinks := []
  fillLinks := []
  checkpoints := []
  events := []
  expectations := []
  instanceKeys := List.nodup_nil
  journalIds := List.nodup_nil
  identityIds := List.nodup_nil

/-! ## Ownership -/

/-- The database's integers are signed. -/
def toI64 (value : ℕ) : Except StoreError Unit :=
  stopIf (2 ^ 63 ≤ value) (.corrupt "integer exceeds SQLite i64")

variable (db : RuntimeDb) (scopeKey : String)

/-- The epoch holds the lease of the scope. -/
def owns (epoch : ℕ) : Bool :=
  db.instances.any fun row => row.scopeKey = scopeKey && row.epoch = epoch && row.leaseActive

/-- Refuse a writer that does not own the scope. -/
def verifyEpoch (runtimeEpoch : ℕ) : Except StoreError Unit := do
  toI64 runtimeEpoch
  stopIf (¬ db.owns scopeKey runtimeEpoch) .staleEpoch

/-- Take a scope over with the next epoch, whether or not the lease is held. -/
def acquireOwnership (scope : RuntimeScope) (ownerId : String) :
    Except StoreError (ℕ × RuntimeDb) := do
  let existing := ((Rows.select RuntimeInstance.scopeKey scope.key db.instances).map
    RuntimeInstance.epoch).getD 0
  stopIf (2 ^ 63 ≤ existing + 1) (.corrupt "runtime epoch overflow")
  let row : RuntimeInstance := ⟨scope.key, existing + 1, ownerId, true, .starting, .startup⟩
  .ok (existing + 1, { db with
    instances := Rows.upsert RuntimeInstance.scopeKey row
      (fun old => { row with scopeKey := old.scopeKey }) db.instances
    instanceKeys := db.instanceKeys.upsert fun _ => rfl })

/-- Rewrite the row of the owner. -/
def setInstance (leaseActive : Bool)
    (lastState : RuntimeState) (lastReason : ReasonCode) : RuntimeDb :=
  { db with
    instances := Rows.update RuntimeInstance.scopeKey scopeKey
      (fun row => { row with
        leaseActive := leaseActive, lastState := lastState, lastReason := lastReason })
      db.instances
    instanceKeys := db.instanceKeys.update fun _ => rfl }

/-- Give the scope back. -/
def releaseOwnership (runtimeEpoch : ℕ) : Except StoreError RuntimeDb := do
  db.verifyEpoch scopeKey runtimeEpoch
  .ok (db.setInstance scopeKey false .stopped .shutdownComplete)

/-- The audit stores at most 2048 bytes of detail. -/
def insertAudit (detail : String) : Except StoreError Unit :=
  stopIf (2048 < byteLength detail.toList) (.persistence "audit detail exceeds bounded size")

/-- Record a transition of the runtime's state. -/
def recordTransition (transition : StateTransition) : Except StoreError RuntimeDb := do
  db.verifyEpoch transition.scopeKey transition.runtimeEpoch
  insertAudit (transition.source.name ++ "->" ++ transition.target.name ++ ": " ++
    transition.detail)
  .ok (db.setInstance transition.scopeKey true transition.target transition.reasonCode)

/-! ## The journal -/

/-- A row that does not decode; the text is the database's. -/
def unreadableRow : StoreError := .persistence "row does not decode"

/-- Read the row of a request and check it. -/
def loadMutation (logicalRequestId : String) : Except StoreError (Option MutationRecord) :=
  match Rows.select MutationRecord.logicalRequestId logicalRequestId db.journal with
  | none => .ok none
  | some record => do
    record.validated.mapError fun _ => unreadableRow
    .ok (some record)

/-- The row of a request, if it is one of the scope. -/
def mutation (scopeKey logicalRequestId : String) : Except StoreError (Option MutationRecord) := do
  let record ← db.loadMutation logicalRequestId
  .ok (record.filter (·.scopeKey = scopeKey))

/-- The journal takes at most this many rows. -/
def journalCapacity : ℕ := 1000000

/-- What the constraints of the journal table refuse: an id that is there already, a row too
many, and evidence that is too long. -/
def violatesJournal (record : MutationRecord) : Prop :=
  (Rows.select MutationRecord.logicalRequestId record.logicalRequestId db.journal).isSome ∨
    journalCapacity ≤ db.journal.length ∨ 2048 < record.requestEvidence.encode.length

instance (db : RuntimeDb) (record : MutationRecord) : Decidable (db.violatesJournal record) :=
  inferInstanceAs (Decidable (_ ∨ _ ∨ _))

/-- Write a new row. Every violated constraint is taken for a duplicate. -/
def insertMutation (record : MutationRecord) : Except StoreError RuntimeDb := do
  db.verifyEpoch record.scopeKey record.runtimeEpoch
  if hbad : db.violatesJournal record then .error .duplicateMutation
  else
    .ok { db with
      journal := db.journal ++ [record]
      journalIds := db.journalIds.append (Option.not_isSome_iff_eq_none.mp fun h => hbad (.inl h)) }


/-- A row after a step: its state, evidence and disposition are written together. -/
def moved (target : JournalState) (brokerEvidenceRef : Option String)
    (disposition : Option ReconciliationDisposition) (runtimeEpoch : ℕ) (now : I64)
    (record : MutationRecord) : MutationRecord :=
  { record with
    state := target, brokerEvidenceRef := brokerEvidenceRef,
    reconciliationDisposition := disposition, updatedAtUnixMs := now,
    runtimeEpoch := runtimeEpoch }

/-- Move the row of a request. -/
def setMutation (logicalRequestId : String) (target : JournalState)
    (brokerEvidenceRef : Option String) (disposition : Option ReconciliationDisposition)
    (runtimeEpoch : ℕ) (now : I64) : RuntimeDb :=
  { db with
    journal := Rows.update MutationRecord.logicalRequestId logicalRequestId
      (moved target brokerEvidenceRef disposition runtimeEpoch now) db.journal
    journalIds := db.journalIds.update fun _ => rfl }

/-- Move a row from one of the expected states. -/
def transitionMutation (scopeKey logicalRequestId : String)
    (expected : List JournalState) (target : JournalState) (brokerEvidenceRef : Option String)
    (disposition : Option ReconciliationDisposition) (runtimeEpoch : ℕ) (now : I64) :
    Except StoreError (MutationRecord × RuntimeDb) := do
  db.verifyEpoch scopeKey runtimeEpoch
  let record ← Except.orStop (← db.loadMutation logicalRequestId) .invalidMutationTransition
  stopIf (record.scopeKey ≠ scopeKey ∨ record.state ∉ expected) .invalidMutationTransition
  let next := moved target brokerEvidenceRef disposition runtimeEpoch now record
  next.validated.mapError fun error => .corrupt error.text
  .ok (next, db.setMutation logicalRequestId target brokerEvidenceRef disposition runtimeEpoch now)

/-- The order in which unresolved mutations are listed. -/
def listedBefore (a b : MutationRecord) : Prop :=
  a.createdAtUnixMs.val < b.createdAtUnixMs.val ∨
    a.createdAtUnixMs.val = b.createdAtUnixMs.val ∧ a.logicalRequestId ≤ b.logicalRequestId

instance : DecidableRel listedBefore := fun _ _ => inferInstanceAs (Decidable (_ ∨ _))

/-- The mutations of a scope that may or may not have reached the broker, oldest first. -/
def unresolvedMutations : Except StoreError (List MutationRecord) := do
  let rows := (db.journal.filter fun record =>
    record.scopeKey = scopeKey && record.state.safetyUnresolved).insertionSort listedBefore
  rows.forM fun record => record.validated.mapError fun _ => unreadableRow
  .ok rows

/-! ## Identity links -/

/-- A linked id is recorded once. -/
def insertOrIgnore {κ : Type} [DecidableEq κ] (key : LinkedId → κ) (rows : List LinkedId)
    (row : LinkedId) : List LinkedId :=
  if (Rows.select key (key row) rows).isSome then rows else rows ++ [row]

/-- Add what is known about the identities of a mutation. A known identity is replaced by a new
one, and kept when there is none; a mutation that is not in the journal has none. -/
def upsertLinks (links : BrokerIdentityLinks) : Except StoreError RuntimeDb := do
  stopIf (Rows.select MutationRecord.logicalRequestId links.logicalRequestId db.journal = none)
    (.corrupt "conflicting typed broker identity link")
  let row : IdentityRow := ⟨links.logicalRequestId, scopeKey, links.brokerOrderId,
    links.replacementBrokerOrderId, links.brokerStopOrderId⟩
  .ok { db with
    identities := Rows.upsert IdentityRow.logicalRequestId row
      (fun old => { old with
        brokerOrderId := links.brokerOrderId.or old.brokerOrderId
        replacementBrokerOrderId :=
          links.replacementBrokerOrderId.or old.replacementBrokerOrderId
        brokerStopOrderId := links.brokerStopOrderId.or old.brokerStopOrderId })
      db.identities
    identityIds := db.identityIds.upsert fun _ => rfl
    operationLinks := links.providerOperationIds.foldl
      (fun rows id => insertOrIgnore (fun r => (r.scopeKey, r.logicalRequestId, r.linkedId)) rows
        ⟨scopeKey, links.logicalRequestId, id⟩) db.operationLinks
    fillLinks := links.brokerFillIds.foldl
      (fun rows id => insertOrIgnore (fun r => (r.scopeKey, r.linkedId)) rows
        ⟨scopeKey, links.logicalRequestId, id⟩) db.fillLinks }

/-- The same as a transaction of its own. -/
def upsertIdentityLinks (links : BrokerIdentityLinks)
    (runtimeEpoch : ℕ) : Except StoreError RuntimeDb := do
  db.verifyEpoch scopeKey runtimeEpoch
  db.upsertLinks scopeKey links

/-- The ids linked to a mutation of a scope. -/
def linkedIds (rows : List LinkedId) (scopeKey logicalRequestId : String) : List String :=
  (rows.filter fun row => row.scopeKey = scopeKey && row.logicalRequestId = logicalRequestId).map
    LinkedId.linkedId

/-- All links of a scope. -/
def allIdentityLinks : List BrokerIdentityLinks :=
  ((db.identities.filter fun row => row.scopeKey = scopeKey).insertionSort
    (fun a b => a.logicalRequestId ≤ b.logicalRequestId)).map fun row =>
      ⟨row.logicalRequestId, row.brokerOrderId, row.replacementBrokerOrderId,
        row.brokerStopOrderId, linkedIds db.operationLinks scopeKey row.logicalRequestId,
        linkedIds db.fillLinks scopeKey row.logicalRequestId⟩

/-! ## Reconciliations -/

/-- The checkpoint of a scope. -/
def loadCheckpoint : Option ReconciliationCheckpoint :=
  Rows.select ReconciliationCheckpoint.scopeKey scopeKey db.checkpoints

/-- Forget the checkpoint of a scope. -/
def discardCheckpoint (runtimeEpoch : ℕ) : Except StoreError RuntimeDb := do
  db.verifyEpoch scopeKey runtimeEpoch
  .ok { db with checkpoints := db.checkpoints.filter fun c => c.scopeKey ≠ scopeKey }

/-- Write one resolved mutation, provided its row is still unresolved. -/
def commitResolved (checkpoint : ReconciliationCheckpoint) (db : RuntimeDb)
    (record : MutationRecord) : Except StoreError RuntimeDb := do
  stopIf (record.scopeKey ≠ checkpoint.scopeKey ∨ record.state ≠ .reconciled)
    .invalidMutationTransition
  let row := Rows.select MutationRecord.logicalRequestId record.logicalRequestId db.journal
  stopIf (¬ row.any fun old =>
      old.scopeKey = checkpoint.scopeKey && old.state.safetyUnresolved)
    (.corrupt ("reconciliation target " ++ record.logicalRequestId ++
      " is missing or no longer unresolved"))
  .ok (db.setMutation record.logicalRequestId .reconciled record.brokerEvidenceRef
    record.reconciliationDisposition checkpoint.runtimeEpoch record.updatedAtUnixMs)

/-- Write the outcome of a reconciliation: the resolved mutations, the links that were learned,
the checkpoint and the state it leads to. -/
def commitReconciliation (checkpoint : ReconciliationCheckpoint)
    (resolved : List MutationRecord) (links : List BrokerIdentityLinks)
    (readinessState : RuntimeState) (reasonCode : ReasonCode) : Except StoreError RuntimeDb := do
  db.verifyEpoch checkpoint.scopeKey checkpoint.runtimeEpoch
  let db ← resolved.foldlM (commitResolved checkpoint) db
  let db ← links.foldlM (fun db link => db.upsertLinks checkpoint.scopeKey link) db
  let db := { db with
    checkpoints := Rows.upsert ReconciliationCheckpoint.scopeKey checkpoint (fun _ => checkpoint)
      db.checkpoints }
  .ok (db.setInstance checkpoint.scopeKey true readinessState reasonCode)

/-! ## Broker events and expectations -/

/-- The later of two numbered events comes first. -/
def newerFirst (a b : ProcessedBrokerEvent × ℕ) : Prop :=
  b.1.firstSeenAtUnixMs.val < a.1.firstSeenAtUnixMs.val ∨
    a.1.firstSeenAtUnixMs.val = b.1.firstSeenAtUnixMs.val ∧ b.2 ≤ a.2

instance : DecidableRel newerFirst := fun _ _ => inferInstanceAs (Decidable (_ ∨ _))

/-- Keep the newest events of a scope. -/
def keepNewest (limit : ℕ) (events : List ProcessedBrokerEvent) : List ProcessedBrokerEvent :=
  let dropped := ((events.zipIdx.filter fun e => e.1.scopeKey = scopeKey).insertionSort
    newerFirst).drop limit
  (events.zipIdx.filter fun e => e ∉ dropped).map Prod.fst

/-- The events kept for a scope. -/
def eventCapacity : ℕ := 100000

/-- Remember an event; the result says whether it is new. -/
def recordBrokerEvent (event : BrokerEvent)
    (firstSeen : I64) : Except StoreError (Bool × RuntimeDb) := do
  db.verifyEpoch scopeKey event.runtimeEpoch
  let row : ProcessedBrokerEvent := ⟨scopeKey, event.eventClass, event.stableEventId, firstSeen⟩
  let seen := db.events.any fun old => old.scopeKey = scopeKey &&
    old.eventClass = event.eventClass && old.stableEventId = event.stableEventId
  if seen then .ok (false, db)
  else .ok (true, { db with events := keepNewest scopeKey eventCapacity (db.events ++ [row]) })

/-- Forget old events. -/
def compact (retainAfter : I64) (maxEvents : ℕ) : RuntimeDb :=
  { db with
    events := keepNewest scopeKey maxEvents (db.events.filter fun e =>
      e.scopeKey ≠ scopeKey ∨ retainAfter.val ≤ e.firstSeenAtUnixMs.val) }

/-- Expect a position, on account of a mutation that is in the journal. -/
def setExpectedPosition (expectation : DerivedPositionExpectation) :
    Except StoreError RuntimeDb := do
  db.verifyEpoch expectation.scopeKey expectation.runtimeEpoch
  stopIf
    (Rows.select MutationRecord.logicalRequestId expectation.basedOnLogicalRequestId db.journal =
      none)
    (.persistence "FOREIGN KEY constraint failed")
  .ok { db with
    expectations := Rows.upsert (fun e => (e.scopeKey, e.instrumentUid)) expectation
      (fun _ => expectation) db.expectations }

/-- The expected positions of a scope. -/
def expectedPositions : List DerivedPositionExpectation :=
  (db.expectations.filter fun e => e.scopeKey = scopeKey).insertionSort
    (fun a b => a.instrumentUid ≤ b.instrumentUid)

/-! ## What the writes do to the journal -/

section Journal

variable {db db' : RuntimeDb}

/-- How far the mutation of a request has come; `none` when it is not in the journal. -/
def journalState (logicalRequestId : String) : Option JournalState :=
  (Rows.select MutationRecord.logicalRequestId logicalRequestId db.journal).map MutationRecord.state

variable {id : String} {target : JournalState} {evidence : Option String}
  {disposition : Option ReconciliationDisposition} {epoch : ℕ} {now : I64} {record : MutationRecord}
  {scopeKey : String} {expected : List JournalState} {next : MutationRecord}
  {checkpoint : ReconciliationCheckpoint} {links : BrokerIdentityLinks}
  {listed : List MutationRecord}

/-- A rewrite of one row moves that row and no other. -/
lemma journalState_setMutation (j : String) :
    (db.setMutation id target evidence disposition epoch now).journalState j =
      if j = id then (db.journalState j).map fun _ => target else db.journalState j := by
  have hkeep : ∀ r, (moved target evidence disposition epoch now r).logicalRequestId =
      r.logicalRequestId := fun _ => rfl
  simp only [journalState, setMutation, Rows.select_update hkeep, Option.map_map]
  rcases hrow : Rows.select MutationRecord.logicalRequestId j db.journal with _ | row
  · simp
  · have hkey := (Rows.mem_of_select hrow).2
    by_cases hj : j = id
    · simp [hkey, hj, moved]
    · simp [hkey, hj]

/-- **A row that is inserted was not there**, and appears in its own state. -/
lemma insertMutation_eq_ok (h : db.insertMutation record = .ok db') :
    db.journalState record.logicalRequestId = none ∧
    ∀ j, db'.journalState j =
      if j = record.logicalRequestId then some record.state else db.journalState j := by
  simp only [insertMutation, seq_eq_ok, exists_unit_ok] at h
  obtain ⟨_, h⟩ := h
  split_ifs at h with hbad
  cases h
  have hfresh : Rows.select MutationRecord.logicalRequestId record.logicalRequestId db.journal =
      none := Option.not_isSome_iff_eq_none.mp fun h => hbad (.inl h)
  refine ⟨by rw [journalState, hfresh]; rfl, fun j => ?_⟩
  unfold journalState
  rw [Rows.select_append]
  by_cases hj : j = record.logicalRequestId
  · simp [hj, hfresh]
  · simp [hj, Ne.symm hj]

/-- The journal has a row of the scope for the request. -/
def HasRow (scopeKey logicalRequestId : String) : Prop :=
  ∃ record ∈ db.journal, record.logicalRequestId = logicalRequestId ∧ record.scopeKey = scopeKey

/-- A rewrite of one row keeps every row, apart from its state. -/
lemma HasRow.setMutation {j : String} (h : db.HasRow scopeKey j) :
    (db.setMutation id target evidence disposition epoch now).HasRow scopeKey j := by
  obtain ⟨record, hmem, hid, hscope⟩ := h
  refine ⟨_, List.mem_map_of_mem hmem, ?_⟩
  split_ifs <;> exact ⟨hid, hscope⟩

section

variable
  (h : db.transitionMutation scopeKey id expected target evidence disposition epoch now =
    .ok (next, db'))
include h

/-- A row that moves is one of the scope and in an expected state; only it is rewritten. -/
lemma transitionMutation_row : ∃ row,
    Rows.select MutationRecord.logicalRequestId id db.journal = some row ∧
    row.scopeKey = scopeKey ∧ row.state ∈ expected ∧
    next = moved target evidence disposition epoch now row ∧
    db' = db.setMutation id target evidence disposition epoch now := by
  simp only [transitionMutation, loadMutation, seq_eq_ok, exists_unit_ok,
    orStop_eq_ok, stopIf_eq_ok, not_or, not_not] at h
  obtain ⟨_, found, hload, record, rfl, _, ⟨hscope, hstate⟩, _, h⟩ := h
  cases h
  rcases hrow : Rows.select MutationRecord.logicalRequestId id db.journal with _ | row
  · rw [hrow] at hload
    cases hload
  · simp only [hrow, seq_eq_ok, exists_unit_ok] at hload
    obtain rfl : row = record := Option.some.inj (Except.ok.inj hload.2)
    exact ⟨row, rfl, hscope, hstate, rfl, rfl⟩

/-- **A row moves only from an expected state**, and no other row moves. -/
lemma transitionMutation_eq_ok : next.logicalRequestId = id ∧
    (∃ state ∈ expected, db.journalState id = some state) ∧
    ∀ j, db'.journalState j = if j = id then some target else db.journalState j := by
  obtain ⟨row, hrow, -, hstate, rfl, rfl⟩ := transitionMutation_row h
  have hat : db.journalState id = some row.state := by rw [journalState, hrow]; rfl
  refine ⟨(Rows.mem_of_select hrow).2, ⟨row.state, hstate, hat⟩, fun j => ?_⟩
  rw [journalState_setMutation]
  by_cases hj : j = id
  · rw [if_pos hj, if_pos hj, hj, hat]
    rfl
  · rw [if_neg hj, if_neg hj]

/-- A row that moves is one of the scope, and no row is lost. -/
lemma transitionMutation_hasRow :
    db'.HasRow scopeKey id ∧ ∀ key j, db.HasRow key j → db'.HasRow key j := by
  obtain ⟨row, hrow, hscope, -, -, rfl⟩ := transitionMutation_row h
  obtain ⟨hmem, hid⟩ := Rows.mem_of_select hrow
  exact ⟨HasRow.setMutation ⟨row, hmem, hid, hscope⟩, fun _ _ hold => hold.setMutation⟩

end

/-- A database whose journal differs from another's at most by mutations that were resolved. -/
structure Resolves (db db' : RuntimeDb) : Prop where
  states : ∀ j, db'.journalState j = db.journalState j ∨
    (db.journalState j).any JournalState.safetyUnresolved = true ∧
      db'.journalState j = some .reconciled
  rows : ∀ key j, db.HasRow key j → db'.HasRow key j

lemma Resolves.refl (db : RuntimeDb) : Resolves db db := ⟨fun _ => .inl rfl, fun _ _ h => h⟩

lemma Resolves.of_journal (h : db'.journal = db.journal) : Resolves db db' :=
  ⟨fun j => .inl (by rw [journalState, journalState, h]), fun _ _ hrow => by rwa [HasRow, h]⟩

lemma Resolves.trans {db'' : RuntimeDb} (h : Resolves db db') (h' : Resolves db' db'') :
    Resolves db db'' := by
  refine ⟨fun j => ?_, fun key j hrow => h'.rows key j (h.rows key j hrow)⟩
  rcases h.states j with heq | ⟨hunresolved, hrec⟩ <;>
    rcases h'.states j with heq' | ⟨hunresolved', hrec'⟩
  · exact .inl (heq'.trans heq)
  · rw [heq] at hunresolved'
    exact .inr ⟨hunresolved', hrec'⟩
  · exact .inr ⟨hunresolved, heq'.trans hrec⟩
  · rw [hrec] at hunresolved'
    exact absurd hunresolved' (by decide)

/-- A chain of steps that resolve at most. -/
lemma Resolves.foldlM {α : Type} {f : RuntimeDb → α → Except StoreError RuntimeDb}
    (hf : ∀ db a db', f db a = .ok db' → Resolves db db') {l : List α}
    (h : l.foldlM f db = .ok db') : Resolves db db' :=
  Except.foldlM_rel Resolves.refl (fun _ _ _ => Resolves.trans) hf h

/-- Writing one resolved mutation resolves at most. -/
lemma commitResolved_resolves (h : commitResolved checkpoint db record = .ok db') :
    Resolves db db' := by
  simp only [commitResolved, seq_eq_ok, stopIf_eq_ok, not_not, Option.any_eq_true] at h
  obtain ⟨_, _, _, ⟨row, hrow, hrowState⟩, h⟩ := h
  cases h
  refine ⟨fun j => ?_, fun _ _ hrow => hrow.setMutation⟩
  rw [journalState_setMutation]
  by_cases hj : j = record.logicalRequestId
  · have hat : db.journalState j = some row.state := by rw [journalState, hj, hrow]; rfl
    rw [if_pos hj, hat]
    refine .inr ⟨?_, rfl⟩
    simp only [Bool.and_eq_true] at hrowState
    exact hrowState.2
  · exact .inl (if_neg hj)

/-! ## What the writes leave alone -/

/-- The tables of the store. -/
inductive Table
  | instances
  | journal
  | identities
  | operationLinks
  | fillLinks
  | checkpoints
  | events
  | expectations
deriving DecidableEq

/-- The two databases have the same rows in the table. -/
def Table.Same : Table → RuntimeDb → RuntimeDb → Prop
  | instances, db, db' => db'.instances = db.instances
  | journal, db, db' => db'.journal = db.journal
  | identities, db, db' => db'.identities = db.identities
  | operationLinks, db, db' => db'.operationLinks = db.operationLinks
  | fillLinks, db, db' => db'.fillLinks = db.fillLinks
  | checkpoints, db, db' => db'.checkpoints = db.checkpoints
  | events, db, db' => db'.events = db.events
  | expectations, db, db' => db'.expectations = db.expectations

/-- The tables of the links. -/
def Table.ofLinks : Table → Bool
  | identities | operationLinks | fillLinks => true
  | _ => false

/-- At most these tables were written. -/
def Leaves (written : Table → Bool) (db db' : RuntimeDb) : Prop :=
  ∀ table, written table = false → table.Same db db'

section Leaves

variable {written written' : Table → Bool}

lemma Leaves.refl (db : RuntimeDb) : Leaves written db db := by
  rintro (_ | _) _ <;> exact rfl

lemma Leaves.trans {db'' : RuntimeDb} (h : Leaves written db db') (h' : Leaves written db' db'') :
    Leaves written db db'' := fun table hw => by
  cases table <;> exact (h' _ hw).trans (h _ hw)

lemma Leaves.mono (hw : ∀ table, written' table = false → written table = false)
    (h : Leaves written db db') : Leaves written' db db' := fun table hw' => h table (hw table hw')

/-- A chain of such writes. -/
lemma Leaves.foldlM {α : Type} {f : RuntimeDb → α → Except StoreError RuntimeDb}
    (hf : ∀ db a db', f db a = .ok db' → Leaves written db db') {l : List α}
    (h : l.foldlM f db = .ok db') : Leaves written db db' :=
  Except.foldlM_rel Leaves.refl (fun _ _ _ => Leaves.trans) hf h

end Leaves

lemma acquireOwnership_leaves {scope : RuntimeScope} {ownerId : String}
    (h : db.acquireOwnership scope ownerId = .ok (epoch, db')) :
    Leaves (· = .instances) db db' := by
  simp only [acquireOwnership, seq_eq_ok, exists_unit_ok] at h
  cases h.2
  rintro (_ | _) hw <;> first | exact rfl | cases hw

variable {state : RuntimeState} {reason : ReasonCode}

lemma setInstance_leaves {active : Bool} :
    Leaves (· = .instances) db (db.setInstance scopeKey active state reason) := by
  rintro (_ | _) hw <;> first | exact rfl | cases hw

lemma insertMutation_leaves (h : db.insertMutation record = .ok db') :
    Leaves (· = .journal) db db' := by
  simp only [insertMutation, seq_eq_ok, exists_unit_ok] at h
  obtain ⟨_, h⟩ := h
  split_ifs at h
  cases h
  rintro (_ | _) hw <;> first | exact rfl | cases hw

lemma setMutation_leaves : Leaves (· = .journal) db
    (db.setMutation id target evidence disposition epoch now) := by
  rintro (_ | _) hw <;> first | exact rfl | cases hw

lemma transitionMutation_leaves
    (h : db.transitionMutation scopeKey id expected target evidence disposition epoch now =
      .ok (next, db')) : Leaves (· = .journal) db db' := by
  obtain ⟨_, -, -, -, -, rfl⟩ := transitionMutation_row h
  exact setMutation_leaves

lemma commitResolved_leaves (h : commitResolved checkpoint db record = .ok db') :
    Leaves (· = .journal) db db' := by
  simp only [commitResolved, seq_eq_ok, exists_unit_ok] at h
  exact Except.ok.inj h.2.2 ▸ setMutation_leaves

lemma upsertLinks_leaves (h : db.upsertLinks scopeKey links = .ok db') :
    Leaves Table.ofLinks db db' := by
  simp only [upsertLinks, seq_eq_ok, exists_unit_ok] at h
  cases h.2
  rintro (_ | _) hw <;> first | exact rfl | cases hw

lemma discardCheckpoint_leaves (h : db.discardCheckpoint scopeKey epoch = .ok db') :
    Leaves (· = .checkpoints) db db' := by
  simp only [discardCheckpoint, seq_eq_ok, exists_unit_ok] at h
  cases h.2
  rintro (_ | _) hw <;> first | exact rfl | cases hw

lemma recordBrokerEvent_leaves {event : BrokerEvent} {firstSeen : I64} {isNew : Bool}
    (h : db.recordBrokerEvent scopeKey event firstSeen = .ok (isNew, db')) :
    Leaves (· = .events) db db' := by
  simp only [recordBrokerEvent, seq_eq_ok, exists_unit_ok] at h
  obtain ⟨_, h⟩ := h
  split_ifs at h
  all_goals
    cases h
    rintro (_ | _) hw <;> first | exact rfl | cases hw

lemma commitReconciliation_leaves {resolved : List MutationRecord}
    {links : List BrokerIdentityLinks}
    (h : db.commitReconciliation checkpoint resolved links state reason = .ok db') :
    Leaves (fun table => table ≠ .events ∧ table ≠ .expectations) db db' := by
  simp only [commitReconciliation, seq_eq_ok, exists_unit_ok] at h
  obtain ⟨_, db₁, hresolved, db₂, hlinks, h⟩ := h
  cases h
  refine (Leaves.mono ?_ (Leaves.foldlM (fun _ _ _ => commitResolved_leaves) hresolved)).trans
    ((Leaves.mono ?_ (Leaves.foldlM (fun _ _ _ => upsertLinks_leaves) hlinks)).trans ?_)
  all_goals rintro (_ | _) hw <;> first | exact rfl | cases hw

/-- **A reconciliation moves only unresolved rows, and only to `RECONCILED`.** -/
lemma commitReconciliation_eq_ok {resolved : List MutationRecord} {links : List BrokerIdentityLinks}
    (h : db.commitReconciliation checkpoint resolved links state reason = .ok db') :
    Resolves db db' := by
  simp only [commitReconciliation, seq_eq_ok, exists_unit_ok] at h
  obtain ⟨_, db₁, hresolved, db₂, hlinks, h⟩ := h
  cases h
  have h₁ : Resolves db db₁ := Resolves.foldlM (fun _ _ _ => commitResolved_resolves) hresolved
  have h₂ : Resolves db₁ db₂ := Resolves.foldlM (fun _ _ _ h =>
    Resolves.of_journal (upsertLinks_leaves h .journal rfl)) hlinks
  exact (h₁.trans h₂).trans (Resolves.of_journal rfl)

/-! ## The lists the store reads -/

/-- What is listed as unresolved: the unresolved rows of the scope. -/
lemma mem_unresolvedMutations (h : db.unresolvedMutations scopeKey = .ok listed) :
    record ∈ listed ↔ record ∈ db.journal ∧ record.scopeKey = scopeKey ∧
      record.state.safetyUnresolved = true := by
  simp only [unresolvedMutations, seq_eq_ok, exists_unit_ok] at h
  cases h.2
  simp [List.mem_insertionSort]

/-- **The unresolved rows of a scope are listed iff each of them is readable.** -/
lemma exists_unresolvedMutations : (∃ listed, db.unresolvedMutations scopeKey = .ok listed) ↔
      ∀ record ∈ db.journal, record.scopeKey = scopeKey → record.state.safetyUnresolved = true →
        record.validated = .ok () := by
  simp only [unresolvedMutations, seq_eq_ok, exists_unit_ok, Except.forM_eq_ok,
    Except.mapError_eq_ok, List.mem_insertionSort, List.mem_filter, Bool.and_eq_true,
    decide_eq_true_eq, exists_and_left]
  exact ⟨fun h record hrecord hkey hstate => h.1 record ⟨hrecord, hkey, hstate⟩,
    fun h => ⟨fun record hrecord => h record hrecord.1 hrecord.2.1 hrecord.2.2, _, rfl⟩⟩

/-- No request is listed twice. -/
lemma unresolvedMutations_unique (h : db.unresolvedMutations scopeKey = .ok listed) :
    Rows.Unique MutationRecord.logicalRequestId listed := by
  simp only [unresolvedMutations, seq_eq_ok, exists_unit_ok] at h
  cases h.2
  refine (List.Perm.nodup_iff ((List.perm_insertionSort _ _).map _)).mpr ?_
  exact db.journalIds.sublist (List.filter_sublist.map _)

/-- The store without the row of a request. -/
def withoutMutation (db : RuntimeDb) (id : String) : RuntimeDb :=
  { db with
    journal := db.journal.filter (·.logicalRequestId ≠ id)
    journalIds := db.journalIds.sublist (List.filter_sublist.map _) }

/-- The rows of other requests are read as before. -/
lemma mutation_withoutMutation {id other : String} (h : other ≠ id) :
    (db.withoutMutation id).mutation scopeKey other = db.mutation scopeKey other := by
  have hselect : Rows.select MutationRecord.logicalRequestId other
      (db.withoutMutation id).journal = Rows.select MutationRecord.logicalRequestId other
        db.journal := Rows.select_filter fun r hr => by simp [hr, h]
  simp only [mutation, loadMutation, hselect]

section Row

variable {row : MutationRecord} (hrow : row ∈ db.journal) (hkey : row.scopeKey = scopeKey)
  (hstate : row.state.safetyUnresolved = true)
include hrow hkey hstate

/-- The unresolved rows of a scope are listed iff one of them is readable and the others are
listed. -/
lemma exists_unresolvedMutations_iff : (∃ listed, db.unresolvedMutations scopeKey = .ok listed) ↔
      row.validated = .ok () ∧
        ∃ listed, (db.withoutMutation row.logicalRequestId).unresolvedMutations scopeKey =
          .ok listed := by
  rw [exists_unresolvedMutations, exists_unresolvedMutations]
  constructor
  · exact fun h => ⟨h row hrow hkey hstate, fun record hrecord =>
      h record (List.mem_of_mem_filter hrecord)⟩
  · rintro ⟨hvalidated, h⟩ record hrecord hrecordKey hrecordState
    by_cases heq : record.logicalRequestId = row.logicalRequestId
    · rw [db.journalIds.eq_of_key_eq hrecord hrow heq, hvalidated]
    · exact h record (List.mem_filter.mpr ⟨hrecord, by simpa using heq⟩) hrecordKey hrecordState

/-- The list with the row has what the list without it has, and the row. -/
lemma any_unresolvedMutations {listed' : List MutationRecord}
    (h : db.unresolvedMutations scopeKey = .ok listed)
    (h' : (db.withoutMutation row.logicalRequestId).unresolvedMutations scopeKey = .ok listed')
    (p : MutationRecord → Bool) : listed.any p = (p row || listed'.any p) := by
  have hmem : ∀ record, record ∈ listed ↔ record = row ∨ record ∈ listed' := by
    intro record
    rw [mem_unresolvedMutations h, mem_unresolvedMutations h']
    constructor
    · rintro ⟨hrecord, hrest⟩
      by_cases heq : record.logicalRequestId = row.logicalRequestId
      · exact .inl (db.journalIds.eq_of_key_eq hrecord hrow heq)
      · exact .inr ⟨List.mem_filter.mpr ⟨hrecord, by simpa using heq⟩, hrest⟩
    · rintro (rfl | ⟨hrecord, hrest⟩)
      · exact ⟨hrow, hkey, hstate⟩
      · exact ⟨List.mem_of_mem_filter hrecord, hrest⟩
  rw [Bool.eq_iff_iff]
  simp [hmem]

end Row

/-- The links of a scope are those of its rows. -/
lemma mem_allIdentityLinks : links ∈ db.allIdentityLinks scopeKey ↔
      ∃ row ∈ db.identities, row.scopeKey = scopeKey ∧
        links = ⟨row.logicalRequestId, row.brokerOrderId, row.replacementBrokerOrderId,
          row.brokerStopOrderId, linkedIds db.operationLinks scopeKey row.logicalRequestId,
          linkedIds db.fillLinks scopeKey row.logicalRequestId⟩ := by
  simp [allIdentityLinks, List.mem_insertionSort, and_assoc, eq_comm]

/-- No request has its links twice. -/
lemma allIdentityLinks_unique (db : RuntimeDb) (scopeKey : String) :
    Rows.Unique BrokerIdentityLinks.logicalRequestId (db.allIdentityLinks scopeKey) := by
  unfold allIdentityLinks Rows.Unique
  rw [List.map_map]
  refine (List.Perm.nodup_iff ((List.perm_insertionSort _ _).map _)).mpr ?_
  exact db.identityIds.sublist (List.filter_sublist.map _)

/-- The row with the identities linked to a request. -/
def identityOf (logicalRequestId : String) : Option IdentityRow :=
  Rows.select IdentityRow.logicalRequestId logicalRequestId db.identities

end Journal

end RuntimeDb

end VoxTrader.Runtime
