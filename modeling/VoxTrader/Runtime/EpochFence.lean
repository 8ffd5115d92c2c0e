import VoxTrader.Runtime.Store

/-!
# Epochs fence off old owners

Any number of runtime instances share one database. Whoever takes a scope over gets the next
epoch, and every write names the epoch of its writer. This module takes the calls of the store as
data and proves, for every sequence of them, that a writer whose epoch was overtaken or given back
is refused from then on.

## Main definitions

* `FencedWrite`, `FencedWrite.exec` — the writes that name an epoch, and what they do.
* `StoreCall`, `StoreCall.perform` — every call that can change the database; a call may also fail
  for a reason of the database's own.
* `storeHistory` — the answers to a sequence of calls.
* `RuntimeDb.Overtaken` — the owner of a scope is past an epoch.

## Main results

* `FencedWrite.exec_instances` — what a write leaves of the table of owners.
* `RuntimeDb.Overtaken.perform` — an epoch that was overtaken stays so.
* `stale_epoch_writes_nothing` — the epochs of a scope increase, and an old one writes nothing.
-/

namespace VoxTrader.Runtime

open Except (seq_eq_ok exists_unit_ok map_eq_ok)
open Option (map_some getD_some)

/-! ## The calls of the store -/

/-- The writes that name the epoch of their writer. -/
inductive FencedWrite
  | recordTransition (transition : StateTransition)
  | insertMutation (record : MutationRecord)
  | transitionMutation (scopeKey logicalRequestId : String) (expected : List JournalState)
      (target : JournalState) (brokerEvidenceRef : Option String)
      (disposition : Option ReconciliationDisposition) (runtimeEpoch : ℕ) (now : I64)
  | upsertIdentityLinks (scopeKey : String) (links : BrokerIdentityLinks) (runtimeEpoch : ℕ)
  | discardCheckpoint (scopeKey : String) (runtimeEpoch : ℕ)
  | commitReconciliation (checkpoint : ReconciliationCheckpoint) (resolved : List MutationRecord)
      (links : List BrokerIdentityLinks) (readinessState : RuntimeState) (reasonCode : ReasonCode)
  | recordBrokerEvent (scopeKey : String) (event : BrokerEvent) (firstSeen : I64)
  | setExpectedPosition (expectation : DerivedPositionExpectation)
  | appendAudit (scopeKey : String) (runtimeEpoch : ℕ) (detail : String)

namespace FencedWrite

/-- The scope a write is for. -/
def scopeKey : FencedWrite → String
  | recordTransition transition => transition.scopeKey
  | insertMutation record => record.scopeKey
  | transitionMutation scopeKey .. | upsertIdentityLinks scopeKey .. => scopeKey
  | discardCheckpoint scopeKey _ | recordBrokerEvent scopeKey .. => scopeKey
  | commitReconciliation checkpoint .. => checkpoint.scopeKey
  | setExpectedPosition expectation => expectation.scopeKey
  | appendAudit scopeKey .. => scopeKey

/-- The epoch of its writer. -/
def runtimeEpoch : FencedWrite → ℕ
  | recordTransition transition => transition.runtimeEpoch
  | insertMutation record => record.runtimeEpoch
  | transitionMutation _ _ _ _ _ _ runtimeEpoch _ | upsertIdentityLinks _ _ runtimeEpoch =>
    runtimeEpoch
  | discardCheckpoint _ runtimeEpoch | appendAudit _ runtimeEpoch _ => runtimeEpoch
  | commitReconciliation checkpoint .. => checkpoint.runtimeEpoch
  | recordBrokerEvent _ event _ => event.runtimeEpoch
  | setExpectedPosition expectation => expectation.runtimeEpoch

/-- What a write does; what it returns besides is not looked at. -/
def exec (db : RuntimeDb) : FencedWrite → Except StoreError RuntimeDb
  | recordTransition transition => db.recordTransition transition
  | insertMutation record => db.insertMutation record
  | transitionMutation scopeKey id expected target evidence disposition epoch now =>
    (db.transitionMutation scopeKey id expected target evidence disposition epoch now).map Prod.snd
  | upsertIdentityLinks scopeKey links epoch => db.upsertIdentityLinks scopeKey links epoch
  | discardCheckpoint scopeKey epoch => db.discardCheckpoint scopeKey epoch
  | commitReconciliation checkpoint resolved links state reason =>
    db.commitReconciliation checkpoint resolved links state reason
  | recordBrokerEvent scopeKey event firstSeen =>
    (db.recordBrokerEvent scopeKey event firstSeen).map Prod.snd
  | setExpectedPosition expectation => db.setExpectedPosition expectation
  | appendAudit scopeKey epoch detail => do
    db.verifyEpoch scopeKey epoch
    RuntimeDb.insertAudit detail
    .ok db

end FencedWrite

/-- The calls that can change the database. -/
inductive StoreCall
  | acquireOwnership (scope : RuntimeScope) (ownerId : String)
  | releaseOwnership (scopeKey : String) (runtimeEpoch : ℕ)
  | write (write : FencedWrite)
  /-- Forget old events; this call names no epoch. -/
  | compact (scopeKey : String) (retainAfter : I64) (maxEvents : ℕ)

/-- What a call is answered. -/
inductive StoreAnswer
  | acquired (runtimeEpoch : ℕ)
  | done
  | failed (error : StoreError)
deriving DecidableEq

namespace StoreCall

/-- What a call does when the database works. -/
def exec (db : RuntimeDb) : StoreCall → Except StoreError (StoreAnswer × RuntimeDb)
  | acquireOwnership scope ownerId =>
    (db.acquireOwnership scope ownerId).map fun (epoch, db') => (.acquired epoch, db')
  | releaseOwnership scopeKey epoch => (db.releaseOwnership scopeKey epoch).map (.done, ·)
  | write w => (w.exec db).map (.done, ·)
  | compact scopeKey retainAfter maxEvents =>
    .ok (.done, db.compact scopeKey retainAfter maxEvents)

/-- Perform a call, which the database may also refuse for reasons of its own. A call that fails
is rolled back. -/
def perform (db : RuntimeDb) (call : StoreCall) (fault : Option StoreError) :
    StoreAnswer × RuntimeDb :=
  match fault, call.exec db with
  | some e, _ | none, .error e => (.failed e, db)
  | none, .ok result => result

end StoreCall

/-- One call after another: the calls with their answers, oldest first, and the database they
leave. -/
def storeHistory (db : RuntimeDb) :
    List (StoreCall × Option StoreError) → List (StoreCall × StoreAnswer) × RuntimeDb
  | [] => ([], db)
  | (call, fault) :: rest =>
    let (answer, db') := call.perform db fault
    let (events, last) := storeHistory db' rest
    ((call, answer) :: events, last)

/-- The epoch a call returned for a scope. -/
def acquiredEpoch (key : String) : StoreCall × StoreAnswer → Option ℕ
  | (.acquireOwnership scope _, .acquired epoch) => if scope.key = key then some epoch else none
  | _ => none

/-- The epochs that were returned for a scope, oldest first. -/
def acquiredEpochs (key : String) (events : List (StoreCall × StoreAnswer)) : List ℕ :=
  events.filterMap (acquiredEpoch key)

/-! ## What the calls do to the table of owners -/

namespace RuntimeDb

variable {db db' : RuntimeDb} {key : String} {epoch : ℕ}

/-- The row of the owner of a scope. -/
def ownerRow (db : RuntimeDb) (key : String) : Option RuntimeInstance :=
  Rows.select RuntimeInstance.scopeKey key db.instances

/-- The writer of an epoch owns the scope iff the row of the scope says so. -/
lemma owns_iff : db.owns key epoch = true ↔
    ∃ row, db.ownerRow key = some row ∧ row.epoch = epoch ∧ row.leaseActive = true := by
  simp only [owns, List.any_eq_true, Bool.and_eq_true, decide_eq_true_eq]
  constructor
  · rintro ⟨row, hmem, ⟨hkey, hepoch⟩, hlease⟩
    exact ⟨row, (Rows.select_eq_some db.instanceKeys).mpr ⟨hmem, hkey⟩, hepoch, hlease⟩
  · rintro ⟨row, hrow, hepoch, hlease⟩
    obtain ⟨hmem, hkey⟩ := Rows.mem_of_select hrow
    exact ⟨row, hmem, ⟨hkey, hepoch⟩, hlease⟩

/-- A writer that passes the fence owns the scope. -/
lemma owns_of_verifyEpoch (h : db.verifyEpoch key epoch = .ok ()) : db.owns key epoch = true := by
  simp only [verifyEpoch, seq_eq_ok, Except.stopIf_eq_ok, not_not] at h
  exact h.choose_spec.2

/-- The row of a scope after a rewrite of the row of another, or of the same. -/
lemma ownerRow_setInstance {key' : String} {lease : Bool} {state : RuntimeState}
    {reason : ReasonCode} : (db.setInstance key' lease state reason).ownerRow key =
      (db.ownerRow key).map fun row => if row.scopeKey = key' then
        { row with leaseActive := lease, lastState := state, lastReason := reason } else row :=
  Rows.select_update fun _ => rfl

/-- **The owner of a scope is past an epoch**: it has a later one, or it has let go of this one. -/
def Overtaken (db : RuntimeDb) (key : String) (epoch : ℕ) : Prop :=
  ∃ row, db.ownerRow key = some row ∧
    (epoch < row.epoch ∨ row.epoch = epoch ∧ row.leaseActive = false)

/-- An epoch that was overtaken owns nothing. -/
lemma Overtaken.not_owns (h : db.Overtaken key epoch) : db.owns key epoch = false := by
  obtain ⟨row, hrow, hpast⟩ := h
  by_contra howns
  obtain ⟨row', hrow', hepoch, hlease⟩ := owns_iff.mp (Bool.eq_true_of_not_eq_false howns)
  obtain rfl : row = row' := Option.some.inj (hrow.symm.trans hrow')
  rcases hpast with hlt | ⟨-, hreleased⟩
  · omega
  · cases hlease.symm.trans hreleased

/-- Whoever takes a scope over gets a later epoch than its owner had. -/
lemma acquireOwnership_eq_ok {scope : RuntimeScope} {ownerId : String}
    (h : db.acquireOwnership scope ownerId = .ok (epoch, db')) :
    epoch = ((db.ownerRow scope.key).map RuntimeInstance.epoch).getD 0 + 1 ∧
      (db'.ownerRow scope.key).map RuntimeInstance.epoch = some epoch ∧
      ∀ key, key ≠ scope.key → db'.ownerRow key = db.ownerRow key := by
  simp only [acquireOwnership, seq_eq_ok] at h
  obtain ⟨_, _, h⟩ := h
  obtain ⟨hepoch, hdb⟩ := Except.pair_inj h
  have hrow : ∀ key, db'.ownerRow key = if key = scope.key
      then some ((db.ownerRow scope.key).elim _ _) else db.ownerRow key := fun key => by
    rw [← hdb]
    exact Rows.select_upsert fun _ => rfl
  refine ⟨hepoch.symm, ?_, fun key hkey => (hrow key).trans (if_neg hkey)⟩
  rw [hrow, if_pos rfl]
  rcases hold : db.ownerRow scope.key with _ | old
  all_goals exact congrArg some hepoch

end RuntimeDb

/-- A write that is accepted is one of the owner. -/
lemma FencedWrite.exec_owns {w : FencedWrite} {db db' : RuntimeDb} (h : w.exec db = .ok db') :
    db.owns w.scopeKey w.runtimeEpoch = true := by
  refine RuntimeDb.owns_of_verifyEpoch ?_
  cases w with
  | transitionMutation | recordBrokerEvent =>
    obtain ⟨_, hresult, -⟩ := map_eq_ok.mp h
    simp only [RuntimeDb.transitionMutation, RuntimeDb.recordBrokerEvent, seq_eq_ok,
      exists_unit_ok] at hresult
    exact hresult.1
  | _ =>
    simp only [exec, RuntimeDb.recordTransition, RuntimeDb.insertMutation,
      RuntimeDb.upsertIdentityLinks, RuntimeDb.discardCheckpoint, RuntimeDb.commitReconciliation,
      RuntimeDb.setExpectedPosition, seq_eq_ok, exists_unit_ok] at h
    exact h.1

/-- **What a write leaves of the table of owners**: at most the state in its row is rewritten. -/
lemma FencedWrite.exec_instances {w : FencedWrite} {db db' : RuntimeDb}
    (h : w.exec db = .ok db') : db'.instances = db.instances ∨ ∃ state reason,
      db'.instances = (db.setInstance w.scopeKey true state reason).instances := by
  cases w with
  | recordTransition =>
    simp only [exec, RuntimeDb.recordTransition, seq_eq_ok, exists_unit_ok] at h
    exact .inr ⟨_, _, by rw [← Except.ok.inj h.2.2]; rfl⟩
  | insertMutation => exact .inl (RuntimeDb.insertMutation_leaves h .instances rfl)
  | transitionMutation =>
    obtain ⟨_, hresult, rfl⟩ := map_eq_ok.mp h
    exact .inl (RuntimeDb.transitionMutation_leaves hresult .instances rfl)
  | discardCheckpoint => exact .inl (RuntimeDb.discardCheckpoint_leaves h .instances rfl)
  | recordBrokerEvent =>
    obtain ⟨_, hresult, rfl⟩ := map_eq_ok.mp h
    exact .inl (RuntimeDb.recordBrokerEvent_leaves hresult .instances rfl)
  | upsertIdentityLinks | setExpectedPosition | appendAudit =>
    simp only [exec, RuntimeDb.upsertIdentityLinks, RuntimeDb.upsertLinks,
      RuntimeDb.setExpectedPosition, seq_eq_ok, exists_unit_ok] at h
    exact .inl (by rw [← Except.ok.inj h.2.2])
  | commitReconciliation checkpoint resolved links state reason =>
    simp only [exec, RuntimeDb.commitReconciliation, seq_eq_ok, exists_unit_ok] at h
    obtain ⟨-, db₁, hresolved, db₂, hlinks, h⟩ := h
    have hfirst : db₁.instances = db.instances :=
      RuntimeDb.Leaves.foldlM (fun _ _ _ => RuntimeDb.commitResolved_leaves) hresolved
        .instances rfl
    have hkept : db₂.instances = db₁.instances :=
      RuntimeDb.Leaves.foldlM (fun _ _ _ => RuntimeDb.upsertLinks_leaves) hlinks .instances rfl
    refine .inr ⟨state, reason, ?_⟩
    rw [← Except.ok.inj h]
    exact congrArg (Rows.update RuntimeInstance.scopeKey checkpoint.scopeKey _) (hkept.trans hfirst)

/-- The epoch of the owner of a scope; 0 before anyone owned it. -/
def RuntimeDb.ownerEpoch (db : RuntimeDb) (key : String) : ℕ :=
  ((db.ownerRow key).map RuntimeInstance.epoch).getD 0

/-- What one call makes of the row of an owner: nothing, the row of the next epoch, or a rewrite of
a row with a lease that keeps its epoch. -/
def Advances (old new : Option RuntimeInstance) : Prop :=
  new = old ∨ (∃ row, new = some row ∧ row.epoch = (old.map RuntimeInstance.epoch).getD 0 + 1) ∨
    ∃ row row', old = some row ∧ row.leaseActive = true ∧ new = some row' ∧ row'.epoch = row.epoch

/-- Rewriting the row of an owner with a lease. -/
lemma RuntimeDb.advances_setInstance {db : RuntimeDb} {key key' : String} {epoch : ℕ} {lease : Bool}
    {state : RuntimeState} {reason : ReasonCode} (h : db.owns key' epoch = true) :
    Advances (db.ownerRow key) ((db.setInstance key' lease state reason).ownerRow key) := by
  rw [ownerRow_setInstance]
  rcases hrow : db.ownerRow key with _ | row
  · exact .inl rfl
  · by_cases hkey : row.scopeKey = key'
    · obtain rfl : key = key' := (Rows.mem_of_select hrow).2.symm.trans hkey
      obtain ⟨row', hrow', -, hlease⟩ := owns_iff.mp h
      obtain rfl : row = row' := Option.some.inj (hrow.symm.trans hrow')
      exact .inr (.inr ⟨row, { row with
        leaseActive := lease, lastState := state, lastReason := reason }, rfl, hlease,
        by simp only [map_some, if_pos hkey], rfl⟩)
    · exact .inl (by simp only [map_some, if_neg hkey])

section

variable {db db' : RuntimeDb} {key : String} {epoch : ℕ} {call : StoreCall} {answer : StoreAnswer}

/-- **Every call advances the owner of every scope.** -/
lemma StoreCall.exec_advances (h : call.exec db = .ok (answer, db')) :
    Advances (db.ownerRow key) (db'.ownerRow key) := by
  cases call with
  | acquireOwnership scope =>
    obtain ⟨⟨epoch, after⟩, hrun, hresult⟩ := map_eq_ok.mp h
    cases hresult
    obtain ⟨hepoch, hrow, hothers⟩ := RuntimeDb.acquireOwnership_eq_ok hrun
    by_cases hkey : key = scope.key
    · subst hkey
      obtain ⟨row, hnew, rfl⟩ := Option.map_eq_some_iff.mp hrow
      exact .inr (.inl ⟨row, hnew, hepoch⟩)
    · exact .inl (hothers key hkey)
  | releaseOwnership =>
    obtain ⟨after, hrun, hresult⟩ := map_eq_ok.mp h
    cases hresult
    simp only [RuntimeDb.releaseOwnership, seq_eq_ok, exists_unit_ok] at hrun
    rw [← Except.ok.inj hrun.2]
    exact RuntimeDb.advances_setInstance (RuntimeDb.owns_of_verifyEpoch hrun.1)
  | write w =>
    obtain ⟨after, hrun, hresult⟩ := map_eq_ok.mp h
    obtain ⟨-, rfl⟩ := Prod.mk.inj hresult
    obtain hkept | ⟨state, reason, hset⟩ := w.exec_instances hrun
    · exact .inl (by rw [RuntimeDb.ownerRow, RuntimeDb.ownerRow, hkept])
    · have hrow : after.ownerRow key = (db.setInstance w.scopeKey true state reason).ownerRow key :=
        congrArg (Rows.select RuntimeInstance.scopeKey key) hset
      rw [hrow]
      exact RuntimeDb.advances_setInstance (w.exec_owns hrun)
  | compact =>
    cases h
    exact .inl rfl

/-- A call that is performed fails and changes nothing, or does what it does. -/
lemma StoreCall.perform_cases (db : RuntimeDb) (call : StoreCall) (fault : Option StoreError) :
    (∃ e, call.perform db fault = (.failed e, db)) ∨
      call.exec db = .ok (call.perform db fault) := by
  unfold perform
  cases fault with
  | some e => exact .inl ⟨e, rfl⟩
  | none =>
    cases call.exec db with
    | error e => exact .inl ⟨e, rfl⟩
    | ok => exact .inr rfl

variable {fault : Option StoreError}

/-- The same for a call that is performed. -/
lemma StoreCall.perform_advances :
    Advances (db.ownerRow key) ((call.perform db fault).2.ownerRow key) := by
  rcases call.perform_cases db fault with ⟨e, hfailed⟩ | hran
  · exact .inl (by rw [hfailed])
  · exact exec_advances hran

/-- The epoch of an owner never falls. -/
lemma Advances.ownerEpoch (h : Advances (db.ownerRow key) (db'.ownerRow key)) :
    db.ownerEpoch key ≤ db'.ownerEpoch key := by
  unfold RuntimeDb.ownerEpoch
  rcases h with h | ⟨row, hrow, hnext⟩ | ⟨row, row', hrow, -, hrow', hsame⟩
  · rw [h]
  · rw [hrow, map_some, getD_some, hnext]
    exact Nat.le_succ _
  · rw [hrow, hrow', map_some, map_some, hsame]

/-- **An epoch that was overtaken stays so.** -/
lemma RuntimeDb.Overtaken.advances (h : db.Overtaken key epoch)
    (hstep : Advances (db.ownerRow key) (db'.ownerRow key)) : db'.Overtaken key epoch := by
  obtain ⟨row, hrow, hpast⟩ := h
  rcases hstep with hsame | ⟨row', hrow', hnext⟩ | ⟨old, row', hold, hlease, hrow', hepoch⟩
  · exact ⟨row, hsame.trans hrow, hpast⟩
  · rw [hrow, map_some, getD_some] at hnext
    exact ⟨row', hrow', .inl (by omega)⟩
  · obtain rfl : old = row := Option.some.inj (hold.symm.trans hrow)
    -- a row with a lease is past the epoch only by a later one
    have hlater : epoch < old.epoch := hpast.resolve_right fun hreleased => by
      rw [hlease] at hreleased
      cases hreleased.2
    exact ⟨row', hrow', .inl (by omega)⟩

/-- An epoch below that of the owner is overtaken. -/
lemma RuntimeDb.overtaken_of_lt (h : epoch < db.ownerEpoch key) : db.Overtaken key epoch := by
  unfold ownerEpoch at h
  rcases hrow : db.ownerRow key with _ | row
  · rw [hrow] at h
    exact absurd h (Nat.not_lt_zero _)
  · rw [hrow] at h
    exact ⟨row, hrow, .inl h⟩

/-- An epoch that is returned is the next one of its scope, and the owner's from then on. -/
lemma ownerEpoch_of_acquired {e : ℕ}
    (h : acquiredEpoch key (call, (call.perform db fault).1) = some e) :
    e = db.ownerEpoch key + 1 ∧ (call.perform db fault).2.ownerEpoch key = e := by
  cases call with
  | acquireOwnership scope ownerId =>
    rcases StoreCall.perform_cases db (.acquireOwnership scope ownerId) fault with
      ⟨error, hfailed⟩ | hran
    · rw [hfailed] at h
      cases h
    · obtain ⟨⟨epoch, after⟩, hrun, hresult⟩ := map_eq_ok.mp hran
      obtain ⟨hepoch, hrow, -⟩ := RuntimeDb.acquireOwnership_eq_ok hrun
      rw [← hresult] at h ⊢
      simp only [acquiredEpoch, Option.ite_none_right_eq_some, Option.some.injEq] at h
      obtain ⟨rfl, rfl⟩ := h
      exact ⟨hepoch, by rw [RuntimeDb.ownerEpoch, hrow]; rfl⟩
  | _ => cases h

/-- An epoch that was given back is overtaken. -/
lemma overtaken_of_released
    (h : ((StoreCall.releaseOwnership key epoch).perform db fault).1 = .done) :
    ((StoreCall.releaseOwnership key epoch).perform db fault).2.Overtaken key epoch := by
  rcases StoreCall.perform_cases db (.releaseOwnership key epoch) fault with
    ⟨error, hfailed⟩ | hran
  · rw [hfailed] at h
    cases h
  · obtain ⟨after, hrun, hresult⟩ := map_eq_ok.mp hran
    rw [← hresult]
    simp only [RuntimeDb.releaseOwnership, seq_eq_ok, exists_unit_ok] at hrun
    obtain ⟨row, hrow, hepoch, -⟩ := RuntimeDb.owns_iff.mp (RuntimeDb.owns_of_verifyEpoch hrun.1)
    rw [← Except.ok.inj hrun.2]
    refine ⟨{ row with
      leaseActive := false, lastState := .stopped, lastReason := .shutdownComplete }, ?_,
      .inr ⟨hepoch, rfl⟩⟩
    rw [RuntimeDb.ownerRow_setInstance, hrow, map_some, if_pos (Rows.mem_of_select hrow).2]

/-- A writer whose epoch was overtaken is refused, and changes nothing. -/
lemma RuntimeDb.Overtaken.refuses {w : FencedWrite} (h : db.Overtaken w.scopeKey w.runtimeEpoch)
    (fault : Option StoreError) :
    ∃ error, (StoreCall.write w).perform db fault = (.failed error, db) := by
  rcases (StoreCall.write w).perform_cases db fault with hfailed | hran
  · exact hfailed
  · obtain ⟨after, hrun, -⟩ := map_eq_ok.mp hran
    have howns := w.exec_owns hrun
    rw [h.not_owns] at howns
    cases howns

end

/-! ## Whole histories -/

section

variable {key : String} {epoch : ℕ}

/-- An epoch that was overtaken stays so over any number of calls. -/
lemma RuntimeDb.Overtaken.history {calls : List (StoreCall × Option StoreError)} :
    ∀ {db : RuntimeDb}, db.Overtaken key epoch → (storeHistory db calls).2.Overtaken key epoch := by
  induction calls with
  | nil => exact id
  | cons first rest ih => exact fun h => ih (h.advances StoreCall.perform_advances)

/-- The epochs a scope gets are above the one it has, and increase.

**Proof sketch.** By induction over the calls, from the first one on. A call that returns an epoch
returns the next one, which is the owner's epoch from then on; any other call does not lower the
owner's epoch. -/
lemma acquiredEpochs_increase (calls : List (StoreCall × Option StoreError)) :
    ∀ db : RuntimeDb, (db.ownerEpoch key ::
      acquiredEpochs key (storeHistory db calls).1).Pairwise (· < ·) := by
  induction calls with
  | nil => exact fun db => List.pairwise_singleton _ _
  | cons first rest ih =>
    intro db
    obtain ⟨call, fault⟩ := first
    have hrest := List.pairwise_cons.mp (ih (call.perform db fault).2)
    have hmono : db.ownerEpoch key ≤ (call.perform db fault).2.ownerEpoch key :=
      StoreCall.perform_advances.ownerEpoch
    have habove : ∀ e ∈ acquiredEpochs key (storeHistory (call.perform db fault).2 rest).1,
        db.ownerEpoch key < e := fun e he => lt_of_le_of_lt hmono (hrest.1 e he)
    change (db.ownerEpoch key :: List.filterMap (acquiredEpoch key)
      ((call, (call.perform db fault).1) :: _)).Pairwise _
    rcases hacquired : acquiredEpoch key (call, (call.perform db fault).1) with _ | e
    · rw [List.filterMap_cons_none hacquired]
      exact List.pairwise_cons.mpr ⟨habove, hrest.2⟩
    · obtain ⟨hnext, howner⟩ := ownerEpoch_of_acquired hacquired
      rw [List.filterMap_cons_some hacquired]
      refine List.pairwise_cons.mpr ⟨fun e' he' => ?_, ?_⟩
      · rcases List.mem_cons.mp he' with rfl | hmem
        · omega
        · exact habove e' hmem
      · rw [← howner]
        exact ih _

/-- A call overtook an epoch: it returned a later one, or gave it back. -/
def Overtakes (key : String) (epoch : ℕ) (event : StoreCall × StoreAnswer) : Prop :=
  (∃ later, acquiredEpoch key event = some later ∧ epoch < later) ∨
    event = (.releaseOwnership key epoch, .done)

/-- After a call that overtook an epoch, the epoch is overtaken at the end of the history. -/
lemma overtaken_of_overtakes (calls : List (StoreCall × Option StoreError)) :
    ∀ db : RuntimeDb, (∃ event ∈ (storeHistory db calls).1, Overtakes key epoch event) →
      (storeHistory db calls).2.Overtaken key epoch := by
  induction calls with
  | nil => rintro db ⟨event, hmem, -⟩; cases hmem
  | cons first rest ih =>
    rintro db ⟨event, hmem, hpast⟩
    obtain ⟨call, fault⟩ := first
    rcases List.mem_cons.mp hmem with rfl | hlater
    · change (storeHistory (call.perform db fault).2 rest).2.Overtaken key epoch
      refine RuntimeDb.Overtaken.history ?_
      rcases hpast with ⟨later, hacquired, hlt⟩ | hreleased
      · have howner := (ownerEpoch_of_acquired hacquired).2
        exact RuntimeDb.overtaken_of_lt (howner.symm ▸ hlt)
      · obtain ⟨rfl, hdone⟩ := Prod.mk.inj hreleased
        exact overtaken_of_released hdone
    · exact ih _ ⟨event, hlater, hpast⟩

end

/-- **Old owners are fenced off.** For every sequence of calls, by any number of runtime instances
and with any failures of the database, the epochs that are returned for a scope strictly increase,
and a write for the scope whose epoch is below a returned one, or was given back, is answered with
an error and leaves the database as it is.

**Proof sketch.** Every call advances the owner of every scope (`StoreCall.exec_advances`): the
owner's epoch never falls, and a lease that was given back is only taken up with the next epoch. So
an epoch that was overtaken stays so, and no write passes the fence with it. -/
theorem stale_epoch_writes_nothing (db : RuntimeDb) (calls : List (StoreCall × Option StoreError))
    (key : String) :
    (acquiredEpochs key (storeHistory db calls).1).Pairwise (· < ·) ∧
      ∀ w : FencedWrite, w.scopeKey = key →
        ((∃ later ∈ acquiredEpochs key (storeHistory db calls).1, w.runtimeEpoch < later) ∨
          (.releaseOwnership key w.runtimeEpoch, .done) ∈ (storeHistory db calls).1) →
        ∀ fault, ∃ error, (StoreCall.write w).perform (storeHistory db calls).2 fault =
          (.failed error, (storeHistory db calls).2) := by
  refine ⟨(List.pairwise_cons.mp (acquiredEpochs_increase calls db)).2, ?_⟩
  rintro w rfl hpast fault
  refine (overtaken_of_overtakes calls db ?_).refuses fault
  rcases hpast with ⟨later, hmem, hlt⟩ | hreleased
  · obtain ⟨event, hevent, hacquired⟩ := List.mem_filterMap.mp hmem
    exact ⟨event, hevent, .inl ⟨later, hacquired, hlt⟩⟩
  · exact ⟨_, hreleased, .inr rfl⟩

/-- A scope that is taken over once and then given back by its second owner. -/
def takeover : List (StoreCall × Option StoreError) :=
  let scope : RuntimeScope := ⟨.tInvest, .sandbox, "account-1"⟩
  [(.acquireOwnership scope "owner-1", none), (.acquireOwnership scope "owner-2", none),
    (.releaseOwnership scope.key 2, none)]

/-- Neither the first nor the second owner of that scope can write afterwards. -/
theorem takeover_fences_both_owners :
    acquiredEpochs "TInvest:Sandbox:account-1" (storeHistory .empty takeover).1 = [1, 2] ∧
      (∃ error, (StoreCall.write (.discardCheckpoint "TInvest:Sandbox:account-1" 1)).perform
        (storeHistory .empty takeover).2 none = (.failed error, (storeHistory .empty takeover).2)) ∧
      ∃ error, (StoreCall.write (.discardCheckpoint "TInvest:Sandbox:account-1" 2)).perform
        (storeHistory .empty takeover).2 none =
          (.failed error, (storeHistory .empty takeover).2) := by
  have hacquired : acquiredEpochs "TInvest:Sandbox:account-1" (storeHistory .empty takeover).1 =
      [1, 2] := by decide +kernel
  refine ⟨hacquired, ?_, ?_⟩
  · exact (stale_epoch_writes_nothing .empty takeover "TInvest:Sandbox:account-1").2
      (.discardCheckpoint "TInvest:Sandbox:account-1" 1) rfl
      (.inl ⟨2, by rw [hacquired]; decide, by decide⟩) none
  · refine (stale_epoch_writes_nothing .empty takeover "TInvest:Sandbox:account-1").2
      (.discardCheckpoint "TInvest:Sandbox:account-1" 2) rfl (.inr ?_) none
    exact List.mem_cons_of_mem _ (List.mem_cons_of_mem _ (List.mem_singleton.mpr rfl))

end VoxTrader.Runtime
