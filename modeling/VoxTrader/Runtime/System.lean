import VoxTrader.Runtime.Coordinator

/-!
# Runtime coordinators on one database

Any number of coordinators of one scope, with any number of calls each, on one runtime database,
one risk port state and one broker. Calls run interleaved, operation by operation. A call may be
dropped at any await, and a store transaction that is on its way then still happens. A coordinator
that crashes is one whose calls are all dropped; a restart is a new coordinator. Nothing keeps an
old coordinator from going on, except what its own operations check.

What the clock, the credentials, the streams and the broker answer is not restricted, and any
store operation may fail without effect.

## Main definitions

* `Instance`, `Volatile.exec` — the memory of a coordinator.
* `RiskSide` — the state behind the risk port, and the effect of its operations.
* `World` — everything shared, with a log of what was done to the journal and sent.
* `runtimeSystem` — the system.

## Main results

* `execOp_left_frame` — what the operations outside a dispatch leave alone.
* `execOp_leaves` — the tables an operation leaves alone.
* `execOp_insert`, `execOp_transition`, `execOp_dispatchOnce` — what those of a dispatch do.
-/

namespace VoxTrader.Runtime

open Option (pair_inj)

/-! ## The memory of a coordinator -/

/-- The command slots of a coordinator. -/
def executionQueueCapacity : ℕ := 256

/-- The memory of a coordinator. A lock or slot is held by a process, named by its number. -/
structure Instance where
  started : Bool
  epoch : ℕ
  connected : Bool
  dirty : Bool
  running : Bool
  state : RuntimeState
  stateLock : Option ℕ
  reconciliationLock : Option ℕ
  slotHolders : List ℕ
  /-- The process that holds all slots. -/
  drainedBy : Option ℕ
  sender : Bool
  /-- Tasks that were spawned and have not begun. -/
  spawned : List Task

namespace Instance

/-- A new coordinator. -/
def new : Instance :=
  ⟨false, 0, false, false, false, .starting, none, none, [], none, false, []⟩

/-- Give back everything a process holds. -/
def leave (who : ℕ) (i : Instance) : Instance :=
  { i with
    stateLock := i.stateLock.filter (· ≠ who)
    reconciliationLock := i.reconciliationLock.filter (· ≠ who)
    slotHolders := i.slotHolders.filter (· ≠ who)
    drainedBy := i.drainedBy.filter (· ≠ who) }

end Instance

/-- The effect of an operation of process `who` on the memory; `none` when it has to wait.
`giveUp` says whether a shutdown stops waiting for the slots. -/
def Volatile.exec (who : ℕ) (giveUp : Bool) (i : Instance) :
    (op : Volatile) → Option (Instance × op.Res)
  | casStarted => some ({ i with started := true }, !i.started)
  | loadEpoch => some (i, i.epoch)
  | storeEpoch epoch => some ({ i with epoch := epoch }, ())
  | loadConnected => some (i, i.connected)
  | storeConnected value => some ({ i with connected := value }, ())
  | loadDirty => some (i, i.dirty)
  | storeDirty value => some ({ i with dirty := value }, ())
  | loadRunning => some (i, i.running)
  | storeRunning value => some ({ i with running := value }, ())
  | casRunning => some ({ i with running := true }, !i.running)
  | readState => if i.stateLock = none then some (i, i.state) else none
  | lockState => if i.stateLock = none then some ({ i with stateLock := some who }, ()) else none
  | moveState target =>
    match i.state.transition target with
    | .ok _ => some ({ i with state := target }, .ok i.state)
    | .error e => some (i, .error e)
  | unlockState => some ({ i with stateLock := none }, ())
  | lockReconciliation =>
    if i.reconciliationLock = none then some ({ i with reconciliationLock := some who }, ())
    else none
  | unlockReconciliation => some ({ i with reconciliationLock := none }, ())
  | tryAcquireSlot =>
    if i.drainedBy = none ∧ i.slotHolders.length < executionQueueCapacity then
      some ({ i with slotHolders := who :: i.slotHolders }, true)
    else some (i, false)
  | releaseSlot => some ({ i with slotHolders := i.slotHolders.erase who }, ())
  | drainSlots =>
    if giveUp then some (i, false)
    else if i.drainedBy = none ∧ i.slotHolders = [] then
      some ({ i with drainedBy := some who }, true)
    else none
  | restoreSlots => some ({ i with drainedBy := none }, ())
  | loadSender => some (i, i.sender)
  | storeSender value => some ({ i with sender := value }, ())
  | spawn task => some ({ i with spawned := i.spawned ++ [task] }, ())
  | abort task => some ({ i with spawned := i.spawned.filter (· ≠ task) }, ())

/-- The memory behind an operation, from what it returned. -/
def Volatile.memory (who : ℕ) (i : Instance) : (op : Volatile) → op.Res → Instance
  | casStarted, _ => { i with started := true }
  | storeEpoch epoch, _ => { i with epoch := epoch }
  | storeConnected value, _ => { i with connected := value }
  | storeDirty value, _ => { i with dirty := value }
  | storeRunning value, _ => { i with running := value }
  | casRunning, _ => { i with running := true }
  | lockState, _ => { i with stateLock := some who }
  | moveState target, (result : Except TransitionError RuntimeState) =>
    { i with state := if result.toBool then target else i.state }
  | unlockState, _ => { i with stateLock := none }
  | lockReconciliation, _ => { i with reconciliationLock := some who }
  | unlockReconciliation, _ => { i with reconciliationLock := none }
  | tryAcquireSlot, (got : Bool) =>
    { i with slotHolders := if got then who :: i.slotHolders else i.slotHolders }
  | releaseSlot, _ => { i with slotHolders := i.slotHolders.erase who }
  | drainSlots, (drained : Bool) =>
    { i with drainedBy := if drained then some who else i.drainedBy }
  | restoreSlots, _ => { i with drainedBy := none }
  | storeSender value, _ => { i with sender := value }
  | spawn task, _ => { i with spawned := i.spawned ++ [task] }
  | abort task, _ => { i with spawned := i.spawned.filter (· ≠ task) }
  | _, _ => i

/-- What an operation does to the memory shows in its result. -/
lemma Volatile.exec_memory {who : ℕ} {giveUp : Bool} {i i' : Instance} {op : Volatile} {r : op.Res}
    (h : op.exec who giveUp i = some (i', r)) : i' = op.memory who i r := by
  cases op with
  | readState | lockState | lockReconciliation | tryAcquireSlot | drainSlots =>
    simp only [Volatile.exec] at h
    split_ifs at h
    all_goals
      cases h
      rfl
  | moveState =>
    simp only [Volatile.exec] at h
    split at h
    all_goals
      cases h
      rfl
  | _ => exact (pair_inj h).1.symm

/-! ## The world -/

/-- Where and for what a process runs. -/
structure Site where
  /-- The number of its coordinator. -/
  coordinator : ℕ
  job : Job

/-- The state behind the risk port, and the effect of its operations. They can see the runtime
database. -/
structure RiskSide (R : Interface) where
  State : Type
  /-- What the outside decides while an operation is performed. -/
  Choice : Type
  exec : (op : R.Op) → ℕ → Site → Choice → RuntimeDb → State → Option (State × R.Res op)
  /-- What a process that goes away leaves behind. -/
  leave : ℕ → Site → State → State
  /-- The operation is a store transaction. -/
  detached : R.Op → Bool

/-- What the log shows, with the process that did it. -/
inductive Entry
  | inserted (who : ℕ) (logicalRequestId : String)
  | moved (who : ℕ) (logicalRequestId : String) (source target : JournalState)
  /-- A command was sent, with what the answer of the broker amounts to. -/
  | sent (who : ℕ) (logicalRequestId : String) (answer : RiskDispatchOutcome)
deriving DecidableEq

/-- Everything the coordinators share. -/
structure World (Risk : Type) where
  db : RuntimeDb
  coordinators : List Instance
  risk : Risk
  /-- The active orders at the broker. -/
  book : List OrderFact
  /-- What processes have read of them, the newest first. -/
  reads : List (ℕ × List OrderFact)
  /-- What happened, the newest first. -/
  log : List Entry

/-- What the outside decides while an operation is performed. -/
structure Choice (RiskChoice : Type) where
  answer : (question : External) → question.Res
  giveUp : Bool
  /-- The store operation fails without effect. -/
  storeFault : Option String
  /-- The read of the active orders fails. -/
  readFault : Option BrokerPortError
  /-- The broker's answer to a command that is sent. -/
  reply : Except BrokerPortError ExecutionResult
  /-- The order the broker accepts for it. -/
  accepted : Option OrderFact
  risk : RiskChoice

/-- What happens by itself. -/
inductive EnvironmentStep
  | newCoordinator
  /-- The active orders change. -/
  | broker (book : List OrderFact)

section

variable {R : Interface} (side : RiskSide R) (scope : RuntimeScope)

/-- A store transaction: it fails without effect, or is performed. -/
def transaction {α : Type} (choice : Choice side.Choice) (w : World side.State)
    (op : RuntimeDb → Except StoreError (α × RuntimeDb)) (entries : List Entry) :
    World side.State × Except StoreError α :=
  match choice.storeFault with
  | some message => (w, .error (.persistence message))
  | none =>
    match op w.db with
    | .ok (a, db) => ({ w with db := db, log := entries ++ w.log }, .ok a)
    | .error e => (w, .error e)

/-- The effect of the operations every part performs. -/
def execBase (who : ℕ) (site : Site) (choice : Choice side.Choice) (w : World side.State) :
    (op : BaseOp) → Option (World side.State × op.Res)
  | .external question => some (w, choice.answer question)
  | .volatile op =>
    match w.coordinators[site.coordinator]? with
    | none => none
    | some i =>
      (op.exec who choice.giveUp i).map fun (i', r) =>
        ({ w with coordinators := w.coordinators.set site.coordinator i' }, r)
  | .store op => some (transaction side choice w (op.exec scope) [])

/-- The effect of the operations of a reconciliation. -/
def execSnapshot (who : ℕ) (choice : Choice side.Choice) (w : World side.State) :
    (op : SnapshotOp) → Option (World side.State × op.Res)
  | .activeOrders =>
    match choice.readFault with
    | some e => some (w, .error e)
    | none => some ({ w with reads := (who, w.book) :: w.reads }, .ok w.book)
  | .commitReconciliation checkpoint resolved links state reason =>
    some (transaction side choice w (fun db =>
      (db.commitReconciliation checkpoint resolved links state reason).map fun db' => ((), db')) [])

/-- The effect of the operations of a dispatch. -/
def execDispatch (who : ℕ) (choice : Choice side.Choice) (w : World side.State) :
    (op : DispatchOp) → Option (World side.State × op.Res)
  | .insertMutation record =>
    some (transaction side choice w
      (fun db => (db.insertMutation record).map fun db' => ((), db'))
      [.inserted who record.logicalRequestId])
  | .transitionMutation id expected target evidence epoch now =>
    some (transaction side choice w
      (fun db => db.transitionMutation scope.key id expected target evidence none epoch now)
      ((w.db.journalState id).toList.map fun source => .moved who id source target))
  | .dispatchOnce _ _ record =>
    some ({ w with
      book := w.book ++ choice.accepted.toList
      log := .sent who record.logicalRequestId (replyOutcome choice.reply) :: w.log },
      choice.reply)

/-- The effect of an operation. -/
def execOp (op : (full R).Op) (who : ℕ) (site : Site) (choice : Choice side.Choice)
    (w : World side.State) : Option (World side.State × (full R).Res op) :=
  match op with
  | .inl (.inl (.inl op)) => execBase side scope who site choice w op
  | .inl (.inl (.inr op)) =>
    (side.exec op who site choice.risk w.db w.risk).map fun (risk, r) => ({ w with risk }, r)
  | .inl (.inr op) => execSnapshot side who choice w op
  | .inr op => execDispatch side scope who choice w op

/-- The operation is a store transaction, which goes on when its call is dropped. -/
def isTransaction : (full R).Op → Bool
  | .inl (.inl (.inl (.store _))) => true
  | .inl (.inl (.inl _)) => false
  | .inl (.inl (.inr op)) => side.detached op
  | .inl (.inr .activeOrders) => false
  | .inl (.inr _) => true
  | .inr (.dispatchOnce ..) => false
  | .inr _ => true

/-- Begin a job; a task has to be spawned first. -/
def beginJob (port : RiskPort R) (coordinator : ℕ) (job : Job) (w : World side.State) :
    Option (World side.State × Site × Process (full R) Unit) :=
  match w.coordinators[coordinator]?, job with
  | none, _ => none
  | some i, .task task _ =>
    if task ∈ i.spawned then
      some ({ w with
        coordinators := w.coordinators.set coordinator
          { i with spawned := i.spawned.erase task } },
        ⟨coordinator, job⟩, job.program port scope)
    else none
  | some _, _ => some (w, ⟨coordinator, job⟩, job.program port scope)

/-- **The system**: coordinators of one scope on one database. -/
def runtimeSystem (port : RiskPort R) : System (full R) where
  State := World side.State
  Site := Site
  Job := ℕ × Job
  Choice := Choice side.Choice
  Event := EnvironmentStep
  start job w := beginJob side scope port job.1 job.2 w
  exec := execOp side scope
  leave who site w :=
    { w with
      coordinators := w.coordinators.modify site.coordinator (Instance.leave who)
      risk := side.leave who site w.risk }
  detached := isTransaction side
  event
    | .newCoordinator, w => some { w with coordinators := w.coordinators ++ [Instance.new] }
    | .broker book, w => some { w with book := book }

end

/-! ## What the operations do -/

section

variable {R : Interface} {side : RiskSide R} {scope : RuntimeScope} {who : ℕ} {site : Site}
  {choice : Choice side.Choice} {w w' : World side.State}

/-- A transaction changes nothing and fails, or is performed. -/
lemma transaction_cases {α : Type} {op : RuntimeDb → Except StoreError (α × RuntimeDb)}
    {entries : List Entry} {r : Except StoreError α}
    (h : transaction side choice w op entries = (w', r)) :
    (w' = w ∧ ∃ e, r = .error e) ∨
      ∃ a db, op w.db = .ok (a, db) ∧ w' = { w with db := db, log := entries ++ w.log } ∧
        r = .ok a := by
  unfold transaction at h
  split at h
  · cases h
    exact .inl ⟨rfl, _, rfl⟩
  split at h
  · rename_i a db hop
    cases h
    exact .inr ⟨a, db, hop, rfl, rfl⟩
  · cases h
    exact .inl ⟨rfl, _, rfl⟩

/-- The tables an operation may write. -/
def writtenBy : (full R).Op → RuntimeDb.Table → Bool
  | .inl (.inl (.inl op)) => op.written
  | .inl (.inr (.commitReconciliation ..)) => fun table => table ≠ .events ∧ table ≠ .expectations
  | .inr (.insertMutation _) | .inr (.transitionMutation ..) => (· = .journal)
  | _ => fun _ => false

/-- The operations every part performs write their tables and the memory of a coordinator. -/
lemma execBase_frame {op : BaseOp} {r : op.Res}
    (h : execBase side scope who site choice w op = some (w', r)) :
    ∃ db coordinators, w' = { w with db := db, coordinators := coordinators } ∧
      w.db.Leaves op.written db := by
  cases op with
  | external =>
    cases h
    exact ⟨_, _, rfl, .refl _⟩
  | volatile =>
    rcases hi : w.coordinators[site.coordinator]? with _ | i
    · simp only [execBase, hi] at h
      cases h
    · simp only [execBase, hi, Option.map_eq_some_iff] at h
      obtain ⟨⟨i', _⟩, _, h⟩ := h
      cases h
      exact ⟨_, _, rfl, .refl _⟩
  | store =>
    rcases transaction_cases (Option.some.inj h) with ⟨rfl, _⟩ | ⟨a, db, hop, rfl, -⟩
    · exact ⟨_, _, rfl, .refl _⟩
    · exact ⟨_, _, rfl, StoreOp.exec_leaves hop⟩

/-- The operations of a reconciliation resolve mutations at most. -/
lemma execSnapshot_frame {op : SnapshotOp} {r : op.Res}
    (h : execSnapshot side who choice w op = some (w', r)) :
    ∃ db reads, w' = { w with db := db, reads := reads } ∧ w.db.Resolves db ∧
      w.db.Leaves (writtenBy (R := R) (.inl (.inr op))) db := by
  cases op with
  | activeOrders =>
    rcases hfault : choice.readFault with _ | e <;> simp only [execSnapshot, hfault] at h
    all_goals
      cases h
      exact ⟨_, _, rfl, .refl _, .refl _⟩
  | commitReconciliation =>
    rcases transaction_cases (Option.some.inj h) with ⟨rfl, _⟩ | ⟨a, db, hop, rfl, -⟩
    · exact ⟨_, _, rfl, .refl _, .refl _⟩
    · obtain ⟨_, hcommit, hdb⟩ := Except.map_eq_ok.mp hop
      cases hdb
      exact ⟨_, _, rfl, RuntimeDb.commitReconciliation_eq_ok hcommit,
        RuntimeDb.commitReconciliation_leaves hcommit⟩

/-- Nothing but the operations of a dispatch writes the log or moves a mutation, apart from
resolving it. -/
lemma execOp_left_frame {op : (withSnapshot R).Op} {r : (full R).Res (.inl op)}
    (h : execOp side scope (.inl op) who site choice w = some (w', r)) :
    w.db.Resolves w'.db ∧ w'.book = w.book ∧ w'.log = w.log := by
  rcases op with (op | op) | op
  · obtain ⟨db, _, rfl, hleaves⟩ := execBase_frame h
    exact ⟨.of_journal (hleaves .journal op.written_journal), rfl, rfl⟩
  · obtain ⟨⟨risk, _⟩, _, h⟩ := Option.map_eq_some_iff.mp h
    cases h
    exact ⟨.refl _, rfl, rfl⟩
  · obtain ⟨db, _, rfl, hresolves, -⟩ := execSnapshot_frame h
    exact ⟨hresolves, rfl, rfl⟩

/-- Beginning a job only takes its task, if it is one. -/
lemma beginJob_frame {port : RiskPort R} {coordinator : ℕ} {job : Job}
    {program : Process (full R) Unit}
    (h : beginJob side scope port coordinator job w = some (w', site, program)) :
    (∃ coordinators, w' = { w with coordinators := coordinators }) ∧
      site = ⟨coordinator, job⟩ ∧ program = job.program port scope := by
  unfold beginJob at h
  split at h
  · cases h
  · split_ifs at h
    obtain ⟨rfl, hsite⟩ := pair_inj h
    cases hsite
    exact ⟨⟨_, rfl⟩, rfl, rfl⟩
  · obtain ⟨rfl, hsite⟩ := pair_inj h
    cases hsite
    exact ⟨⟨_, rfl⟩, rfl, rfl⟩

/-- **Journalling a command**: it fails without effect, or the command was not in the journal. -/
lemma execOp_insert {record : MutationRecord} {r : Except StoreError Unit}
    (h : execOp side scope (.inr (.insertMutation record)) who site choice w = some (w', r)) :
    (w' = w ∧ ∃ e, r = .error e) ∨
      ∃ db, w' = { w with db := db, log := .inserted who record.logicalRequestId :: w.log } ∧
        r = .ok () ∧ w.db.journalState record.logicalRequestId = none ∧
        ∀ j, db.journalState j =
          if j = record.logicalRequestId then some record.state else w.db.journalState j := by
  rcases transaction_cases (Option.some.inj h) with hfail | ⟨_, db, hop, hw, hr⟩
  · exact .inl hfail
  · obtain ⟨db', hinsert, hdb⟩ := Except.map_eq_ok.mp hop
    obtain ⟨-, rfl⟩ := Prod.mk.inj hdb
    exact .inr ⟨db', hw, hr, RuntimeDb.insertMutation_eq_ok hinsert⟩

/-- **Moving a mutation**: it fails without effect, or the mutation was one of the scope in an
expected state. -/
lemma execOp_transition {id : String} {expected : List JournalState} {target : JournalState}
    {evidence : Option String} {epoch : ℕ} {now : I64} {r : Except StoreError MutationRecord}
    (h : execOp side scope (.inr (.transitionMutation id expected target evidence epoch now)) who
      site choice w = some (w', r)) :
    (w' = w ∧ ∃ e, r = .error e) ∨ ∃ db next source,
        w' = { w with db := db, log := .moved who id source target :: w.log } ∧
        r = .ok next ∧ next.logicalRequestId = id ∧ source ∈ expected ∧
        w.db.journalState id = some source ∧ db.HasRow scope.key id ∧
        ∀ j, db.journalState j = if j = id then some target else w.db.journalState j := by
  rcases transaction_cases (Option.some.inj h) with hfail | ⟨next, db, hop, hw, hr⟩
  · exact .inl hfail
  · obtain ⟨hid, ⟨source, hsource, hstate⟩, hdb⟩ := RuntimeDb.transitionMutation_eq_ok hop
    rw [hstate] at hw
    exact .inr ⟨db, next, source, hw, hr, hid, hsource, hstate,
      (RuntimeDb.transitionMutation_hasRow hop).1, hdb⟩

/-- **Sending a command**: the broker answers, and may accept an order. -/
lemma execOp_dispatchOnce {purpose : RuntimeExecutionPurpose} {command : RuntimeExecutionCommand}
    {record : MutationRecord} {r : Except BrokerPortError ExecutionResult}
    (h : execOp side scope (.inr (.dispatchOnce purpose command record)) who site choice w =
      some (w', r)) :
    w' = { w with
      book := w.book ++ choice.accepted.toList
      log := .sent who record.logicalRequestId (replyOutcome choice.reply) :: w.log } ∧
      r = choice.reply := by
  obtain ⟨hw, hr⟩ := pair_inj h
  exact ⟨hw.symm, hr.symm⟩

/-- The operations of a dispatch write the journal, the log and the book of the broker. -/
lemma execDispatch_frame {op : DispatchOp} {r : (full R).Res (.inr op)}
    (h : execOp side scope (.inr op) who site choice w = some (w', r)) :
    ∃ db book log, w' = { w with db := db, book := book, log := log } ∧
      w.db.Leaves (writtenBy (R := R) (.inr op)) db := by
  cases op with
  | insertMutation =>
    rcases transaction_cases (Option.some.inj h) with ⟨rfl, _⟩ | ⟨_, db, hop, rfl, -⟩
    · exact ⟨_, _, _, rfl, .refl _⟩
    · obtain ⟨_, hinsert, hdb⟩ := Except.map_eq_ok.mp hop
      exact ⟨_, _, _, rfl, (Prod.mk.inj hdb).2 ▸ RuntimeDb.insertMutation_leaves hinsert⟩
  | transitionMutation =>
    rcases transaction_cases (Option.some.inj h) with ⟨rfl, _⟩ | ⟨_, db, hop, rfl, -⟩
    · exact ⟨_, _, _, rfl, .refl _⟩
    · exact ⟨_, _, _, rfl, RuntimeDb.transitionMutation_leaves hop⟩
  | dispatchOnce =>
    obtain ⟨rfl, -⟩ := execOp_dispatchOnce h
    exact ⟨_, _, _, rfl, .refl _⟩

/-- **An operation writes its tables and no others.** -/
lemma execOp_leaves {op : (full R).Op} {r : (full R).Res op}
    (h : execOp side scope op who site choice w = some (w', r)) :
    w.db.Leaves (writtenBy op) w'.db := by
  rcases op with ((op | op) | op) | op
  · obtain ⟨db, _, rfl, hleaves⟩ := execBase_frame h
    exact hleaves
  · obtain ⟨⟨risk, _⟩, _, h⟩ := Option.map_eq_some_iff.mp h
    cases h
    exact .refl _
  · obtain ⟨db, _, rfl, -, hleaves⟩ := execSnapshot_frame h
    exact hleaves
  · obtain ⟨db, _, _, rfl, hleaves⟩ := execDispatch_frame h
    exact hleaves

end

end VoxTrader.Runtime
