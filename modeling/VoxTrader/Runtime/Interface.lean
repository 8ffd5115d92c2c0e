import VoxTrader.Lib.Process
import VoxTrader.Runtime.Store

/-!
# The operations of a runtime coordinator

A coordinator is a concurrent program. Between two of its operations anything else may happen:
another call of the same coordinator, another coordinator on the same database, the broker. Its
operations are listed here as data, in four parts: those that every part of a coordinator
performs, those of its risk port, those of a reconciliation and those of a dispatch.

A store operation is one transaction. A broker read stands for the source's bounded retries of
it, which have no effect of their own. What only feeds health, metrics or traces is left out.

## Main definitions

* `External` — questions to the clock, the credentials, the streams and the broker.
* `Volatile` — operations on the coordinator's own memory, its locks and its command slots.
* `StoreOp` — store operations that do not write the journal.
* `SnapshotOp` — reading the active orders and committing a reconciliation.
* `DispatchOp` — journalling, fencing and sending a command.
* `base`, `withRisk`, `withSnapshot`, `full` — the interfaces these make up.
* `RiskPort` — the risk port, as programs.
-/

namespace VoxTrader.Runtime

open Process
open Except (map_eq_ok seq_eq_ok exists_unit_ok)

/-! ## Operations every part performs -/

/-- Questions to the outside. -/
inductive External
  | now
  | freshId
  | resolveCredentials
  | authorizeExecution (purpose : RuntimeExecutionPurpose)
  | connectStreams (runtimeEpoch : ℕ)
  | disconnectStreams
  | nextSignal
  | accounts
  | portfolio
  | positions
  | stopOrders (since : I64)
  | orderState (brokerOrderId : Option String) (logicalRequestId : String)
  | operationsPage (cursor : Option String) (since : I64)
deriving DecidableEq

/-- Their answers. -/
def External.Res : External → Type
  | now => Option I64
  | freshId => String
  | resolveCredentials => Except BrokerPortError Bool
  | authorizeExecution _ => Except BrokerPortError Unit
  | connectStreams _ => Except BrokerPortError (List StreamKind)
  | disconnectStreams => Unit
  | nextSignal => Option StreamSignal
  | accounts => Except BrokerPortError (List BrokerAccount)
  | portfolio => Except BrokerPortError PortfolioFact
  | positions => Except BrokerPortError (List PositionFact)
  | stopOrders _ => Except BrokerPortError (List StopFact)
  | orderState _ _ => Except BrokerPortError (Option OrderFact)
  | operationsPage _ _ => Except BrokerPortError OperationsPage

/-- The tasks a coordinator spawns. -/
inductive Task
  | streamWorker
  | coalescedReconciliation
deriving DecidableEq

/-- Operations on the memory of a coordinator. -/
inductive Volatile
  | casStarted
  | loadEpoch
  | storeEpoch (runtimeEpoch : ℕ)
  | loadConnected
  | storeConnected (value : Bool)
  | loadDirty
  | storeDirty (value : Bool)
  | loadRunning
  | storeRunning (value : Bool)
  | casRunning
  /-- Lock the state machine, look at it and unlock it. -/
  | readState
  | lockState
  | moveState (target : RuntimeState)
  | unlockState
  | lockReconciliation
  | unlockReconciliation
  | tryAcquireSlot
  | releaseSlot
  /-- Take all command slots, or give up after a while. -/
  | drainSlots
  | restoreSlots
  | loadSender
  | storeSender (value : Bool)
  | spawn (task : Task)
  | abort (task : Task)
deriving DecidableEq

/-- Their results. -/
def Volatile.Res : Volatile → Type
  | casStarted | loadConnected | loadDirty | loadRunning | casRunning => Bool
  | tryAcquireSlot | drainSlots | loadSender => Bool
  | loadEpoch => ℕ
  | readState => RuntimeState
  | moveState _ => Except TransitionError RuntimeState
  | _ => Unit

/-- Store operations that do not write the journal. -/
inductive StoreOp
  | acquireOwnership (ownerId : String)
  | verifyEpoch (runtimeEpoch : ℕ)
  | releaseOwnership (runtimeEpoch : ℕ)
  | appendAudit (runtimeEpoch : ℕ)
  | recordTransition (transition : StateTransition)
  | mutation (logicalRequestId : String)
  | unresolvedMutations
  | allIdentityLinks
  | upsertIdentityLinks (links : BrokerIdentityLinks) (runtimeEpoch : ℕ)
  | loadCheckpoint
  | discardCheckpoint (runtimeEpoch : ℕ)
  | recordBrokerEvent (event : BrokerEvent) (firstSeen : I64)
  | expectedPositions
  | compact (retainAfter : I64) (maxEvents : ℕ)
deriving DecidableEq

/-- What they return when they succeed. -/
def StoreOp.Value : StoreOp → Type
  | acquireOwnership _ => ℕ
  | mutation _ => Option MutationRecord
  | unresolvedMutations => List MutationRecord
  | allIdentityLinks => List BrokerIdentityLinks
  | loadCheckpoint => Option ReconciliationCheckpoint
  | recordBrokerEvent _ _ => Bool
  | expectedPositions => List DerivedPositionExpectation
  | _ => Unit

/-- The effect of a store operation on the database of a scope. -/
def StoreOp.exec (scope : RuntimeScope) (db : RuntimeDb) :
    (op : StoreOp) → Except StoreError (op.Value × RuntimeDb)
  | acquireOwnership ownerId => db.acquireOwnership scope ownerId
  | verifyEpoch epoch => (db.verifyEpoch scope.key epoch).map fun _ => ((), db)
  | releaseOwnership epoch => (db.releaseOwnership scope.key epoch).map fun db' => ((), db')
  | appendAudit epoch => (db.verifyEpoch scope.key epoch).map fun _ => ((), db)
  | recordTransition transition => (db.recordTransition transition).map fun db' => ((), db')
  | mutation id => (db.mutation scope.key id).map fun record => (record, db)
  | unresolvedMutations => (db.unresolvedMutations scope.key).map fun records => (records, db)
  | allIdentityLinks => .ok (db.allIdentityLinks scope.key, db)
  | upsertIdentityLinks links epoch =>
    (db.upsertIdentityLinks scope.key links epoch).map fun db' => ((), db')
  | loadCheckpoint => .ok (db.loadCheckpoint scope.key, db)
  | discardCheckpoint epoch => (db.discardCheckpoint scope.key epoch).map fun db' => ((), db')
  | recordBrokerEvent event firstSeen => db.recordBrokerEvent scope.key event firstSeen
  | expectedPositions => .ok (db.expectedPositions scope.key, db)
  | compact retainAfter maxEvents => .ok ((), db.compact scope.key retainAfter maxEvents)

/-- The tables an operation may write. -/
def StoreOp.written : StoreOp → RuntimeDb.Table → Bool
  | acquireOwnership _ | releaseOwnership _ | recordTransition _ => (· = .instances)
  | upsertIdentityLinks _ _ => RuntimeDb.Table.ofLinks
  | discardCheckpoint _ => (· = .checkpoints)
  | recordBrokerEvent _ _ | compact _ _ => (· = .events)
  | _ => fun _ => false

/-- **It writes no others.** -/
lemma StoreOp.exec_leaves {scope : RuntimeScope} {db db' : RuntimeDb} {op : StoreOp}
    {a : op.Value} (h : op.exec scope db = .ok (a, db')) : db.Leaves op.written db' := by
  cases op with
  | acquireOwnership => exact RuntimeDb.acquireOwnership_leaves h
  | recordBrokerEvent => exact RuntimeDb.recordBrokerEvent_leaves h
  | releaseOwnership =>
    obtain ⟨_, hok, hdb⟩ := map_eq_ok.mp h
    simp only [RuntimeDb.releaseOwnership, seq_eq_ok, exists_unit_ok] at hok
    exact (Prod.mk.inj hdb).2 ▸ Except.ok.inj hok.2 ▸ RuntimeDb.setInstance_leaves
  | recordTransition =>
    obtain ⟨_, hok, hdb⟩ := map_eq_ok.mp h
    simp only [RuntimeDb.recordTransition, seq_eq_ok, exists_unit_ok] at hok
    exact (Prod.mk.inj hdb).2 ▸ Except.ok.inj hok.2.2 ▸ RuntimeDb.setInstance_leaves
  | upsertIdentityLinks =>
    obtain ⟨_, hok, hdb⟩ := map_eq_ok.mp h
    simp only [RuntimeDb.upsertIdentityLinks, seq_eq_ok, exists_unit_ok] at hok
    exact (Prod.mk.inj hdb).2 ▸ RuntimeDb.upsertLinks_leaves hok.2
  | discardCheckpoint =>
    obtain ⟨_, hok, hdb⟩ := map_eq_ok.mp h
    exact (Prod.mk.inj hdb).2 ▸ RuntimeDb.discardCheckpoint_leaves hok
  | verifyEpoch epoch | appendAudit epoch | mutation id | unresolvedMutations =>
    obtain ⟨_, _, hdb⟩ := map_eq_ok.mp h
    exact (Prod.mk.inj hdb).2 ▸ .refl _
  | allIdentityLinks | loadCheckpoint | expectedPositions =>
    exact (Except.pair_inj h).2 ▸ .refl _
  | compact =>
    cases h
    rintro (_ | _) hw <;> first | exact rfl | cases hw

/-- The operations every part of a coordinator performs. -/
inductive BaseOp
  | external (question : External)
  | volatile (op : Volatile)
  | store (op : StoreOp)
deriving DecidableEq

/-- The tables they may write. -/
def BaseOp.written : BaseOp → RuntimeDb.Table → Bool
  | store op => op.written
  | _ => fun _ => false

lemma BaseOp.written_journal (op : BaseOp) : op.written .journal = false := by
  rcases op with _ | _ | _ | _ <;> rfl

/-- Their results. -/
def BaseOp.Res : BaseOp → Type
  | external question => question.Res
  | volatile op => op.Res
  | store op => Except StoreError op.Value

/-- The interface of these operations. -/
def base : Interface := ⟨BaseOp, BaseOp.Res⟩

/-! ## Operations on the journal and the broker's orders -/

/-- Operations of a reconciliation. -/
inductive SnapshotOp
  | activeOrders
  | commitReconciliation (checkpoint : ReconciliationCheckpoint) (resolved : List MutationRecord)
      (links : List BrokerIdentityLinks) (readinessState : RuntimeState) (reasonCode : ReasonCode)
deriving DecidableEq

/-- Their results. -/
def SnapshotOp.Res : SnapshotOp → Type
  | activeOrders => Except BrokerPortError (List OrderFact)
  | commitReconciliation .. => Except StoreError Unit

/-- Operations of a dispatch. -/
inductive DispatchOp
  | insertMutation (record : MutationRecord)
  | transitionMutation (logicalRequestId : String) (expected : List JournalState)
      (target : JournalState) (brokerEvidenceRef : Option String) (runtimeEpoch : ℕ) (now : I64)
  | dispatchOnce (purpose : RuntimeExecutionPurpose) (command : RuntimeExecutionCommand)
      (record : MutationRecord)
deriving DecidableEq

/-- Their results. -/
def DispatchOp.Res : DispatchOp → Type
  | insertMutation _ => Except StoreError Unit
  | transitionMutation .. => Except StoreError MutationRecord
  | dispatchOnce .. => Except BrokerPortError ExecutionResult

/-! ## Interfaces -/

/-- The interface of the operations of a reconciliation. -/
def snapshot : Interface := ⟨SnapshotOp, SnapshotOp.Res⟩

/-- The interface of the operations of a dispatch. -/
def dispatching : Interface := ⟨DispatchOp, DispatchOp.Res⟩

/-- The interface of a risk port with operations of its own. -/
abbrev withRisk (R : Interface) : Interface := base.sum R

/-- The interface of everything but a dispatch. -/
abbrev withSnapshot (R : Interface) : Interface := (withRisk R).sum snapshot

/-- The interface of a coordinator. -/
abbrev full (R : Interface) : Interface := (withSnapshot R).sum dispatching

/-- An operation is one on the memory of a coordinator, or beside it. -/
lemma volatile_or_beside {R : Interface} (op : (full R).Op) :
    (∃ op', op = .inl (.inl (.inl (.volatile op')))) ∨
      ∀ op', op ≠ .inl (.inl (.inl (.volatile op'))) :=
  (em _).imp_right fun h op' heq => h ⟨op', heq⟩

/-- The risk port of a scope. -/
structure RiskPort (R : Interface) where
  admitCommand : RuntimeExecutionPurpose → RuntimeExecutionCommand → String →
    ExceptT RiskAdmissionError (Process (withRisk R)) RiskAdmission
  validateBeforeDispatch : RuntimeExecutionPurpose → RuntimeExecutionCommand → String →
    RiskAdmission → ExceptT RiskAdmissionError (Process (withRisk R)) Unit
  recordDispatchOutcome : String → RiskDispatchOutcome →
    ExceptT RiskAdmissionError (Process (withRisk R)) Unit
  reconcile : ReconciliationReport → ExceptT RiskAdmissionError (Process (withRisk R)) Unit

/-- Ask a question. -/
def ask (question : External) : Process base question.Res :=
  perform (I := base) (.external question)

/-- Perform an operation on the coordinator's memory. -/
def volatile (op : Volatile) : Process base op.Res := perform (I := base) (.volatile op)

/-- Perform a store operation. -/
def storeCall (op : StoreOp) : Process base (Except StoreError op.Value) :=
  perform (I := base) (.store op)

/-- Perform an operation of a reconciliation. -/
def snapshotCall {R : Interface} (op : SnapshotOp) : Process (withSnapshot R) op.Res :=
  Process.performRight (J := snapshot) op

/-- Perform an operation of a dispatch. -/
def dispatchCall {R : Interface} (op : DispatchOp) : Process (full R) op.Res :=
  Process.performRight (J := dispatching) op

/-! ## Disciplines -/

section

variable {R : Interface} {G ε α : Type} {D : Discipline (withSnapshot R) G}

/-- A program of the operations every part performs, as part of a reconciliation. -/
lemma follows_baseExcept {Q : Except ε α → G → Prop}
    {x : ExceptT ε (Process base) α} {g : G} :
    Follows D Q (liftM x : ExceptT ε (Process (withSnapshot R)) α).run g ↔
      Follows D.left.left Q x.run g :=
  follows_lift.trans follows_lift

end

end VoxTrader.Runtime
