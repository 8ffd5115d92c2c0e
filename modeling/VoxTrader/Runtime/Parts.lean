import VoxTrader.Runtime.Coordinator

/-!
# The parts of a coordinator that only ask and look up

Most of what a coordinator does between two steps that matter consists of questions to the outside
and of store operations that concern neither the ownership of the scope nor the state of the
runtime. Whatever the single questions and store operations keep, these parts keep: this is proved
here once, so that a discipline has to look at single operations only. None of them waits for the
next signal of a stream.

## Main definitions

* `StoreOp.aside` — the store operations that leave the instance row of the scope alone.
* `Volatile.calm` — the operations on the memory that leave the gate alone.
* `RiskPort.Quiet` — a risk port that does nothing but ask and perform its own operations.

## Main results

* `keeps_planReconciliation` — the reads of a reconciliation.
* `keeps_streamEventHasLocalProvenance`, `keeps_recordEvent` — looking at an event of a stream.
-/

namespace VoxTrader.Runtime

open Process

/-- The store operation does not concern the ownership of the scope or the runtime's state. -/
def StoreOp.aside : StoreOp → Bool
  | acquireOwnership _ | releaseOwnership _ | recordTransition _ => false
  | _ => true

/-- The operations every part performs, except for storing links. -/
def BaseOp.LeavesRecords : BaseOp → Prop
  | .store (.upsertIdentityLinks ..) => False
  | _ => True

/-- Operations on the memory that do not concern the activity. -/
def Volatile.calm : Volatile → Bool
  | unlockReconciliation | tryAcquireSlot | releaseSlot | drainSlots | restoreSlots | loadSender
  | storeSender _ | abort _ => true
  | _ => false

/-- Questions and the risk port's own operations. -/
def quietOp {R : Interface} : (withRisk R).Op → Prop
  | .inl (.external _) => True
  | .inl _ => False
  | .inr _ => True

/-- **The risk port keeps to itself**: it asks and performs its own operations, but touches neither
the memory of the coordinator nor the runtime store. -/
structure RiskPort.Quiet {R : Interface} (port : RiskPort R) : Prop where
  admitCommand : ∀ purpose command id, (port.admitCommand purpose command id).run.Performs quietOp
  validateBeforeDispatch : ∀ purpose command id admission,
    (port.validateBeforeDispatch purpose command id admission).run.Performs quietOp
  recordDispatchOutcome : ∀ id outcome, (port.recordDispatchOutcome id outcome).run.Performs quietOp
  reconcile : ∀ report, (port.reconcile report).run.Performs quietOp

section

variable {G ε α : Type} {D : Discipline base G} {P : G → Prop}

/-! ## Reads -/

section

variable (hask : ∀ question, question ≠ .nextSignal → Keeps D P (ask question))

include hask

lemma keeps_nowUnixMsStore : Keeps D P nowUnixMsStore := by
  refine (hask .now nofun).bind fun now => ?_
  cases now with
  | none | some now => exact keeps_pure

lemma keeps_nowUnixMs : Keeps D P nowUnixMs.run := (keeps_nowUnixMsStore hask).orFail

lemma keeps_reconcilerNow : Keeps D P reconcilerNow.run := by
  refine (hask .now nofun).except.bindExcept fun now => ?_
  cases now with
  | none => exact keeps_throw
  | some => exact keeps_pure

/-- The pages of the history, by induction on how many are left. -/
lemma keeps_operationPages (since : I64) {pages : ℕ} : ∀ cursor seenCursors operations,
      Keeps D P (operationPages since pages cursor seenCursors operations).run := by
  induction pages with
  | zero => exact fun _ _ _ => keeps_throw
  | succ pages ih =>
    intro cursor seenCursors operations
    refine (hask (.operationsPage _ _) nofun).orFail.bindExcept fun page => ?_
    rcases page.nextCursor with _ | nextCursor
    · exact keeps_pure
    · dsimp only
      split_ifs
      · exact keeps_throw
      · exact ih _ _ _

/-- Connecting the streams, by induction on the attempts that are left. -/
lemma keeps_connectAttempts (hflag : Keeps D P (volatile (.storeConnected true)))
    (epoch attempts : ℕ) : Keeps D P (connectAttempts epoch attempts).run := by
  induction attempts with
  | zero => exact keeps_throw
  | succ attempts ih =>
    refine (hask (.connectStreams epoch) nofun).except.bindExcept fun connected => ?_
    cases connected with
    | ok =>
      dsimp only
      split_ifs
      · exact hflag.except
      · exact keeps_throw
    | error =>
      dsimp only
      split_ifs
      · exact ih
      · exact keeps_throw

/-- The search for evidence, by induction on the mutations that are left. -/
lemma keeps_resolveMutations {epoch : ℕ} {now : I64} {snapshot : BrokerSnapshot}
    {links : List BrokerIdentityLinks} (mutations : List MutationRecord) :
    ∀ found, Keeps D P (resolveMutations epoch now snapshot links mutations found).run := by
  induction mutations with
  | nil => exact fun _ => keeps_pure
  | cons mutation rest ih =>
    intro found
    rw [resolveMutations_cons]
    refine Keeps.bindExcept ?_ fun direct => ih _
    unfold readOrder
    split_ifs
    · exact (hask (.orderState _ _) nofun).orFail
    · exact keeps_pure

end

/-! ## Store operations -/

section

variable (hstore : ∀ op : StoreOp, op.aside = true → BaseOp.LeavesRecords (.store op) →
    Keeps D P (storeCall op))

include hstore

lemma keeps_historyStart (scope : RuntimeScope) (epoch : ℕ) (now : I64) :
    Keeps D P (historyStart scope epoch now).run := by
  refine (hstore .loadCheckpoint rfl trivial).orFail.bindExcept fun checkpoint => ?_
  rcases checkpoint with _ | checkpoint
  · exact keeps_pure
  · dsimp only
    split_ifs
    · exact keeps_pure
    · exact (hstore (.discardCheckpoint epoch) rfl trivial).orFail.bindExcept
        fun _ => keeps_pure

lemma keeps_recordFills {now : I64} (events : List BrokerEvent) :
    Keeps D P (recordFills now events).run := by
  induction events with
  | nil => exact keeps_pure
  | cons event rest ih =>
    exact (hstore (.recordBrokerEvent event now) rfl trivial).orFail.bindExcept fun _ => ih

end

/-- Whether an event belongs to a request of this runtime. -/
lemma keeps_streamEventHasLocalProvenance (hlinks : Keeps D P (storeCall .allIdentityLinks))
    (hlisted : Keeps D P (storeCall .unresolvedMutations)) (event : BrokerEvent) :
    Keeps D P (streamEventHasLocalProvenance event).run := by
  refine hlinks.orFail.bindExcept fun links => ?_
  split_ifs
  · exact keeps_pure
  · exact hlisted.orFail.bindExcept fun _ => keeps_pure

/-! ## Reads and store operations -/

section

variable (hask : ∀ question, question ≠ .nextSignal → Keeps D P (ask question))
  (hstore : ∀ op : StoreOp, op.aside = true → BaseOp.LeavesRecords (.store op) →
    Keeps D P (storeCall op))

include hask hstore

/-- What is read before the active orders. -/
lemma keeps_openReconciliation (scope : RuntimeScope) (epoch : ℕ) :
    Keeps D P (openReconciliation scope epoch).run := by
  refine (keeps_reconcilerNow hask).bindExcept fun now => ?_
  refine (hask .freshId nofun).except.bindExcept fun _ => ?_
  refine (keeps_historyStart hstore scope epoch now).bindExcept fun _ => ?_
  refine (hask .accounts nofun).orFail.bindExcept fun _ => ?_
  refine (hask .portfolio nofun).orFail.bindExcept fun _ => ?_
  exact (hask .positions nofun).orFail.bindExcept fun _ => keeps_pure

/-- **The reads of a reconciliation** after the active orders. -/
lemma keeps_planReconciliation (scope : RuntimeScope) (epoch : ℕ) {opening : Opening}
    {activeOrders : List OrderFact} :
    Keeps D P (planReconciliation scope epoch opening activeOrders).run := by
  refine (hask (.stopOrders _) nofun).orFail.bindExcept fun stopOrders => ?_
  refine (keeps_operationPages hask _ _ _ _).bindExcept fun operations => ?_
  refine (hstore .unresolvedMutations rfl trivial).orFail.bindExcept fun unresolved => ?_
  split_ifs
  · exact keeps_throw
  refine (hstore .allIdentityLinks rfl trivial).orFail.bindExcept fun links => ?_
  refine (hstore .expectedPositions rfl trivial).orFail.bindExcept fun expectations => ?_
  refine (keeps_resolveMutations hask _ _).bindExcept fun found => ?_
  exact (keeps_recordFills hstore _).bindExcept fun _ => keeps_pure

/-- Recording an event, once the epoch is known. -/
lemma keeps_recordEvent (hepoch : Keeps D P currentEpoch.run) (event : BrokerEvent) :
    Keeps D P (recordEvent event).run := by
  refine hepoch.bindExcept fun epoch => ?_
  split_ifs
  · exact keeps_pure
  · exact (keeps_nowUnixMs hask).bindExcept fun now =>
      (hstore (.recordBrokerEvent event now) rfl trivial).orFail

end

/-- The epoch of a coordinator, once reading it is harmless. -/
lemma keeps_currentEpoch (hload : Keeps D P (volatile .loadEpoch)) :
    Keeps D P currentEpoch.run := by
  refine hload.except.bindExcept fun epoch => ?_
  split_ifs
  · exact keeps_throw
  · exact keeps_pure

end

/-! ## Programs as parts of others -/

section

variable {R : Interface} {G ε α : Type} {D : Discipline (withSnapshot R) G} {P : G → Prop}
  {x : Process base α}

lemma keeps_part (hx : Keeps D.left.left P x) : Keeps D P (liftM x : Process (withSnapshot R) α) :=
  hx.lift.lift

lemma keeps_partExcept {x : ExceptT ε (Process base) α} (hx : Keeps D.left.left P x.run) :
    Keeps D P (liftM x : ExceptT ε (Process (withSnapshot R)) α).run :=
  keeps_part hx

lemma keeps_partProcess (hx : Keeps D.left.left P x) :
    Keeps D P (liftM x : ExceptT ε (Process (withSnapshot R)) α).run :=
  keeps_partExcept hx.except

/-- What is taken and given back around a program. -/
lemma keeps_holding {I : Interface} {D : Discipline I G} {take giveBack : Process I Unit}
    {body : ExceptT ε (Process I) α} (htake : Keeps D P take)
    (hbody : Keeps D P body.run) (hback : Keeps D P giveBack) :
    Keeps D P (holding take giveBack body).run :=
  htake.bind fun _ => hbody.bind fun _ => hback.bind fun _ => keeps_pure

/-- The same for what the program ends with, if giving back does not touch that. -/
lemma follows_holding {I : Interface} {D : Discipline I G} {take giveBack : Process I Unit} {g : G}
    {body : ExceptT ε (Process I) α} {Q : Except ε α → G → Prop}
    (hbody : Follows D (fun _ g' => Follows D Q body.run g') take g)
    (hback : ∀ r g', Q r g' → Follows D (fun _ => Q r) giveBack g') :
    Follows D Q (holding take giveBack body).run g :=
  follows_bind.mpr (hbody.mono fun _ _ h => follows_bind.mpr (h.mono fun r g' hr =>
    follows_bind.mpr (hback r g' hr)))

end

end VoxTrader.Runtime
