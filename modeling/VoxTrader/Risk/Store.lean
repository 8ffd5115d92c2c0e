import VoxTrader.Lib.Check
import VoxTrader.Lib.Rows
import VoxTrader.Risk.Model

/-!
# The risk store

The SQLite database behind the risk layer: the tables of policies, decisions and reservations,
and the operations on them. Every operation that writes is one immediate transaction, so it is a
function from a database to either an error, which rolls everything back, or a result and the
next database.

The unique indices of the schema are part of the type: a `RiskDb` carries the proofs that no two
decisions and no two reservations share an id or a request, and an insert that would break one is
an error, as it is in the database.

## Main definitions

* `RiskDb` — the tables, with their keys.
* `RiskDb.persistApprovalAtomic` — insert a decision with its reservation, within capacity.
* `RiskDb.updateReservation` — move a reservation from one of the expected states.
* `RiskDb.activeReservedDelta`, `RiskDb.activeReservations` — what still holds capacity.

## Main results

* `RiskDb.persistApprovalAtomic_cases` — a persisted approval is a replay or a fresh pair of rows.
* `RiskDb.updateReservation_eq_ok`, `RiskDb.putPolicy_eq_ok` — what an update of a reservation and
  of a policy has checked and written.
-/

namespace VoxTrader.Risk

open Except (seq_eq_ok stopIf orStop exists_unit_ok stopIf_eq_ok orStop_eq_ok)

/-- The errors of the store. -/
inductive RiskStoreError
  | sqlite
  | capacityExceeded
  | invalidCapacity
  | reservationNotFound
  | invalidTransition
  | arithmeticOverflow
  | approvalInvariantViolation (message : String)
  | policyRevisionConflict
  | invalidPolicyMutation
deriving DecidableEq

/-- The limits an approval is persisted under. -/
structure ReservationCapacity where
  maxAccountReservedNotionalNanos : Option I128
  maxInstrumentReservedAbsLots : Option I64
deriving DecidableEq

/-- A decision together with its reservation. -/
structure PersistedRiskApproval where
  decision : RiskDecision
  reservation : RiskReservation
deriving DecidableEq

/-- The request a decision is about, unique in its table. -/
def RiskDecision.request (d : RiskDecision) : String × String := (d.accountId, d.requestId)

/-- The request a reservation is for, unique in its table. -/
def RiskReservation.request (r : RiskReservation) : String × String :=
  (r.accountId, r.logicalRequestId)

/-- The tables of the risk store, with the schema's primary keys and unique indices. -/
structure RiskDb where
  /-- The current policy of each account. -/
  policies : List (String × RiskPolicySet)
  decisions : List RiskDecision
  reservations : List RiskReservation
  policyAccounts : Rows.Unique Prod.fst policies
  decisionIds : Rows.Unique RiskDecision.decisionId decisions
  decisionRequests : Rows.Unique RiskDecision.request decisions
  reservationIds : Rows.Unique RiskReservation.reservationId reservations
  reservationRequests : Rows.Unique RiskReservation.request reservations

namespace RiskDb

/-- The store before anything was written to it. -/
def empty : RiskDb where
  policies := []
  decisions := []
  reservations := []
  policyAccounts := List.nodup_nil
  decisionIds := List.nodup_nil
  decisionRequests := List.nodup_nil
  reservationIds := List.nodup_nil
  reservationRequests := List.nodup_nil

/-! ## Reads -/

variable (db : RiskDb)

/-- The current policy of an account. -/
def policy (accountId : String) : Option RiskPolicySet :=
  (Rows.select Prod.fst accountId db.policies).map Prod.snd

/-- The decision with an id. -/
def decision (decisionId : String) : Option RiskDecision :=
  Rows.select RiskDecision.decisionId decisionId db.decisions

/-- The decision on a request. -/
def decisionForRequest (accountId requestId : String) : Option RiskDecision :=
  Rows.select RiskDecision.request (accountId, requestId) db.decisions

/-- The reservation for a request. -/
def reservationForRequest (accountId logicalRequestId : String) : Option RiskReservation :=
  Rows.select RiskReservation.request (accountId, logicalRequestId) db.reservations

/-- The reservation with an id. -/
def reservationById (reservationId : String) : Option RiskReservation :=
  Rows.select RiskReservation.reservationId reservationId db.reservations

/-- The reservations of an account that hold capacity. -/
def holding (accountId : String) : List RiskReservation :=
  db.reservations.filter fun r => r.accountId = accountId && r.state.holdsCapacity

/-- Those of one instrument. -/
def holdingInstrument (accountId instrumentId : String) : List RiskReservation :=
  db.reservations.filter fun r =>
    r.accountId = accountId && r.instrumentId = instrumentId && r.state.holdsCapacity

/-- The signed lots reserved on an instrument; the database's `SUM` reports an overflow. -/
def activeReservedDelta (accountId instrumentId : String) : Except RiskStoreError I64 :=
  orStop (FixedInt.checkedSum
    ((db.holdingInstrument accountId instrumentId).map (·.remainingDeltaLots))) .sqlite

/-- The order in which active reservations are listed. -/
def listedBefore (a b : RiskReservation) : Prop :=
  a.createdAtUnixMs.val < b.createdAtUnixMs.val ∨
    a.createdAtUnixMs.val = b.createdAtUnixMs.val ∧ a.reservationId ≤ b.reservationId

instance : DecidableRel listedBefore := fun _ _ => inferInstanceAs (Decidable (_ ∨ _))

/-- The reservations of an account that hold capacity, oldest first. -/
def activeReservations (accountId : String) : List RiskReservation :=
  (db.holding accountId).insertionSort listedBefore

/-! ## Checks before a write -/

/-- The decision and the reservation describe the same approved request. -/
def validateApprovalLink (decision : RiskDecision) (reservation : RiskReservation) :
    Except RiskStoreError Unit :=
  stopIf (decision.accountId ≠ reservation.accountId ∨
      decision.requestId ≠ reservation.logicalRequestId ∨
      decision.reservationId ≠ some reservation.reservationId ∨
      ¬ decision.permitsDispatch ∨
      decision.approvedDeltaLots ≠ reservation.reservedDeltaLots)
    (.approvalInvariantViolation
      "decision and reservation do not describe the same approved request")

/-- No limit is negative. -/
def validateCapacity (capacity : ReservationCapacity) : Except RiskStoreError Unit :=
  stopIf (capacity.maxAccountReservedNotionalNanos.any (·.val < 0) ∨
    capacity.maxInstrumentReservedAbsLots.any (·.val < 0)) .invalidCapacity

/-- The common form of both capacity checks: what is held and what is requested, in absolute
values, stay within the limit. -/
def enforceLimit {w : ℕ} (limit : Option (FixedInt w)) (held : List (FixedInt w))
    (requested : FixedInt w) : Except RiskStoreError Unit :=
  match limit with
  | none => .ok ()
  | some limit => do
    let active ← orStop (FixedInt.checkedAbsSum held) .arithmeticOverflow
    let requestedAbs ← orStop requested.checkedAbs .arithmeticOverflow
    let projected ← orStop (active.checkedAdd requestedAbs) .arithmeticOverflow
    stopIf (limit.val < projected.val) .capacityExceeded

/-- The reservation fits: lots per instrument, then notional per account. -/
def enforceCapacity (reservation : RiskReservation)
    (capacity : ReservationCapacity) : Except RiskStoreError Unit := do
  enforceLimit capacity.maxInstrumentReservedAbsLots
    ((db.holdingInstrument reservation.accountId reservation.instrumentId).map
      (·.remainingDeltaLots))
    reservation.remainingDeltaLots
  enforceLimit capacity.maxAccountReservedNotionalNanos
    ((db.holding reservation.accountId).map (·.reservedNotionalNanos))
    reservation.reservedNotionalNanos

/-! ## Writes -/

/-- A revision is bound as an integer of the database, which is signed. -/
def bindRevision (revision : ℕ) : Except RiskStoreError Unit := stopIf (2 ^ 63 ≤ revision) .sqlite

/-- Give an account a policy. The revision that is there has to be the expected one, and the new
one has to be higher. -/
def putPolicy (accountId : String) (expectedRevision : Option ℕ)
    (policy : RiskPolicySet) (reason : String) :
    Except RiskStoreError (RiskPolicySet × RiskDb) := do
  stopIf (Text.isBlank accountId ∨ Text.isBlank reason ∨ policy.revision = 0) .invalidPolicyMutation
  let current := (db.policy accountId).map (·.revision)
  stopIf (expectedRevision ≠ current) .policyRevisionConflict
  stopIf (current.any (policy.revision ≤ ·)) .policyRevisionConflict
  bindRevision policy.revision
  .ok (policy, { db with
    policies := Rows.upsert Prod.fst (accountId, policy) (fun row => (row.1, policy)) db.policies
    policyAccounts := db.policyAccounts.upsert fun _ => rfl })

/-- Insert a decision; a taken id or request violates a constraint. -/
def insertDecision (d : RiskDecision) : Except RiskStoreError RiskDb := do
  bindRevision d.policyRevision
  if h : Rows.select RiskDecision.decisionId d.decisionId db.decisions = none ∧
      Rows.select RiskDecision.request d.request db.decisions = none then
    .ok { db with
      decisions := db.decisions ++ [d]
      decisionIds := db.decisionIds.append h.1
      decisionRequests := db.decisionRequests.append h.2 }
  else .error .sqlite

/-- Insert a reservation; a taken id or request violates a constraint. -/
def insertReservation (r : RiskReservation) : Except RiskStoreError RiskDb :=
  if h : Rows.select RiskReservation.reservationId r.reservationId db.reservations = none ∧
      Rows.select RiskReservation.request r.request db.reservations = none then
    .ok { db with
      reservations := db.reservations ++ [r]
      reservationIds := db.reservationIds.append h.1
      reservationRequests := db.reservationRequests.append h.2 }
  else .error .sqlite

/-- Record a decision. One with the same id is left as it is; another decision on the same
request violates a constraint. -/
def putDecision (d : RiskDecision) : Except RiskStoreError RiskDb := do
  bindRevision d.policyRevision
  if (Rows.select RiskDecision.decisionId d.decisionId db.decisions).isSome then .ok db
  else db.insertDecision d

/-- Persist an approval and its reservation together. A request that already has a reservation
gets the approval that is there, with nothing written. -/
def persistApprovalAtomic (decision : RiskDecision) (reservation : RiskReservation)
    (capacity : ReservationCapacity) : Except RiskStoreError (PersistedRiskApproval × RiskDb) := do
  validateApprovalLink decision reservation
  validateCapacity capacity
  match db.reservationForRequest reservation.accountId reservation.logicalRequestId with
  | some existingReservation => do
    let existingDecision ← orStop (db.decisionForRequest decision.accountId decision.requestId)
      (.approvalInvariantViolation "reservation exists without its risk decision")
    .ok (⟨existingDecision, existingReservation⟩, db)
  | none => do
    db.enforceCapacity reservation capacity
    let db ← db.insertDecision decision
    let db ← db.insertReservation reservation
    .ok (⟨decision, reservation⟩, db)

/-- The reservation with a new quantity, state and time of change. -/
def moved (remaining : I64) (state : ReservationState) (now : I64) (r : RiskReservation) :
    RiskReservation :=
  { r with remainingDeltaLots := remaining, state := state, updatedAtUnixMs := now }

/-- Write a new quantity and state into the row of a reservation. -/
def setReservation (reservationId : String) (remaining : I64)
    (state : ReservationState) (now : I64) : RiskDb :=
  { db with
    reservations := Rows.update RiskReservation.reservationId reservationId
      (moved remaining state now) db.reservations
    reservationIds := db.reservationIds.update fun _ => rfl
    reservationRequests := db.reservationRequests.update fun _ => rfl }

/-- Move a reservation to a new quantity and state, if it is in one of the expected states. -/
def updateReservation (reservationId : String) (expected : List ReservationState)
    (remaining : I64) (state : ReservationState) (now : I64) :
    Except RiskStoreError (RiskReservation × RiskDb) := do
  let current ← orStop (db.reservationById reservationId) .reservationNotFound
  stopIf (current.state ∉ expected) .invalidTransition
  .ok (moved remaining state now current, db.setReservation reservationId remaining state now)

/-- The approval of a request, which is complete or absent. -/
def approvalForRequest (reservation : Option RiskReservation) (decision : Option RiskDecision) :
    Except RiskStoreError (Option PersistedRiskApproval) :=
  match decision, reservation with
  | none, none => .ok none
  | some decision, some reservation => do
    validateApprovalLink decision reservation
    .ok (some ⟨decision, reservation⟩)
  | _, _ => .error (.approvalInvariantViolation "risk request has incomplete persisted approval")

/-! ## What an operation has checked and written -/

variable {db db' : RiskDb} {reservationId : String} {remaining now : I64} {state : ReservationState}
  {accountId logicalRequestId : String} {r : RiskReservation}

/-- **An update that succeeds** found the reservation in an expected state and wrote exactly the
new quantity, state and time. -/
lemma updateReservation_eq_ok {expected : List ReservationState} {updated : RiskReservation} :
    db.updateReservation reservationId expected remaining state now = .ok (updated, db') ↔
      ∃ current, db.reservationById reservationId = some current ∧ current.state ∈ expected ∧
        updated = moved remaining state now current ∧
        db' = db.setReservation reservationId remaining state now := by
  simp only [updateReservation, seq_eq_ok, orStop_eq_ok, stopIf_eq_ok,
    not_not, exists_const, Except.ok.injEq, Prod.mk.injEq]
  constructor
  all_goals
    rintro ⟨current, hcurrent, hstate, rfl, rfl⟩
    exact ⟨current, hcurrent, hstate, rfl, rfl⟩

/-- **A policy that is written** replaces the expected revision by a higher one, for its account
only. -/
lemma putPolicy_eq_ok {reason : String} {expected : Option ℕ}
    {replacement result : RiskPolicySet}
    (h : db.putPolicy accountId expected replacement reason = .ok (result, db')) :
    (db.policy accountId).map (·.revision) = expected ∧
      (∀ current, db.policy accountId = some current → current.revision < replacement.revision) ∧
      ∀ account, db'.policy account =
        if account = accountId then some replacement else db.policy account := by
  simp only [putPolicy, seq_eq_ok, exists_unit_ok] at h
  simp only [stopIf_eq_ok, ne_eq, not_not] at h
  obtain ⟨-, hexpected, hhigher, -, hdb⟩ := h
  cases hdb
  refine ⟨hexpected.symm, fun current hcurrent => ?_, fun account => ?_⟩
  · rw [hcurrent] at hhigher
    simpa using hhigher
  · have hkey : ∀ row : String × RiskPolicySet, Prod.fst (row.1, replacement) = row.1 :=
      fun _ => rfl
    simp only [policy]
    rw [Rows.select_upsert hkey]
    by_cases haccount : account = accountId
    · rw [if_pos haccount, if_pos haccount]
      rcases Rows.select Prod.fst accountId db.policies with _ | row
      all_goals rfl
    · rw [if_neg haccount, if_neg haccount]

/-- The reservation of a request, found in the table. -/
lemma reservationForRequest_eq_some : db.reservationForRequest accountId logicalRequestId = some r ↔
      r ∈ db.reservations ∧ r.request = (accountId, logicalRequestId) :=
  Rows.select_eq_some db.reservationRequests

/-- A reservation that is in the table is found by its id. -/
lemma reservationById_of_mem (h : r ∈ db.reservations) :
    db.reservationById r.reservationId = some r :=
  (Rows.select_eq_some db.reservationIds).mpr ⟨h, rfl⟩

/-- After a write, the reservation of a request is the old one, moved iff it is the one that was
written. -/
lemma reservationForRequest_setReservation :
    (db.setReservation reservationId remaining state now).reservationForRequest accountId
        logicalRequestId =
      (db.reservationForRequest accountId logicalRequestId).map fun r =>
        if r.reservationId = reservationId then moved remaining state now r else r :=
  Rows.select_update fun _ => rfl

/-- An inserted decision is appended, under a fresh id and request. -/
lemma insertDecision_eq_ok {d : RiskDecision} (h : db.insertDecision d = .ok db') :
    db'.decisions = db.decisions ++ [d] ∧ db'.reservations = db.reservations ∧
      db'.policies = db.policies ∧
      Rows.select RiskDecision.decisionId d.decisionId db.decisions = none ∧
      Rows.select RiskDecision.request d.request db.decisions = none := by
  simp only [insertDecision, seq_eq_ok, exists_unit_ok] at h
  obtain ⟨-, h⟩ := h
  split_ifs at h with hfresh
  rw [← Except.ok.inj h]
  exact ⟨rfl, rfl, rfl, hfresh⟩

/-- A decision that is put is there by its id, or is inserted. -/
lemma putDecision_cases {d : RiskDecision} (h : db.putDecision d = .ok db') :
    db' = db ∨ db.insertDecision d = .ok db' := by
  simp only [putDecision, seq_eq_ok, exists_unit_ok] at h
  obtain ⟨-, h⟩ := h
  split_ifs at h with htaken
  · exact .inl (Except.ok.inj h).symm
  · exact .inr h

/-- An inserted reservation is appended, under a fresh id and request. -/
lemma insertReservation_eq_ok (h : db.insertReservation r = .ok db') :
    db'.reservations = db.reservations ++ [r] ∧ db'.decisions = db.decisions ∧
      db'.policies = db.policies ∧
      Rows.select RiskReservation.reservationId r.reservationId db.reservations = none ∧
      Rows.select RiskReservation.request r.request db.reservations = none := by
  unfold insertReservation at h
  split_ifs at h with hfresh
  rw [← Except.ok.inj h]
  exact ⟨rfl, rfl, rfl, hfresh⟩

/-- **A persisted approval is a replay or a fresh pair of rows.** A replay returns what is there
and writes nothing; otherwise the reservation fits the capacity and both rows are appended. -/
lemma persistApprovalAtomic_cases {decision : RiskDecision} {reservation : RiskReservation}
    {capacity : ReservationCapacity} {approval : PersistedRiskApproval}
    (h : db.persistApprovalAtomic decision reservation capacity = .ok (approval, db')) :
    validateApprovalLink decision reservation = .ok () ∧ validateCapacity capacity = .ok () ∧
      ((db.reservationForRequest reservation.accountId reservation.logicalRequestId =
            some approval.reservation ∧
          db.decisionForRequest decision.accountId decision.requestId = some approval.decision ∧
          db' = db) ∨
        (db.reservationForRequest reservation.accountId reservation.logicalRequestId = none ∧
          db.enforceCapacity reservation capacity = .ok () ∧ approval = ⟨decision, reservation⟩ ∧
          db'.reservations = db.reservations ++ [reservation] ∧
          db'.decisions = db.decisions ++ [decision] ∧ db'.policies = db.policies)) := by
  simp only [persistApprovalAtomic, seq_eq_ok, exists_unit_ok] at h
  obtain ⟨hlink, hcapacity, h⟩ := h
  refine ⟨hlink, hcapacity, ?_⟩
  rcases hr : db.reservationForRequest reservation.accountId reservation.logicalRequestId
    with _ | existing
  · right
    simp only [hr, seq_eq_ok, exists_unit_ok, Except.ok.injEq, Prod.mk.injEq] at h
    obtain ⟨hfit, db₁, h₁, db₂, h₂, rfl, rfl⟩ := h
    obtain ⟨hd₁, hr₁, hp₁, -⟩ := insertDecision_eq_ok h₁
    obtain ⟨hr₂, hd₂, hp₂, -⟩ := insertReservation_eq_ok h₂
    exact ⟨rfl, hfit, rfl, by rw [hr₂, hr₁], by rw [hd₂, hd₁], by rw [hp₂, hp₁]⟩
  · left
    simp only [hr, seq_eq_ok, orStop_eq_ok, Except.ok.injEq, Prod.mk.injEq] at h
    obtain ⟨existingDecision, hd, rfl, rfl⟩ := h
    exact ⟨rfl, hd, rfl⟩

end RiskDb

end VoxTrader.Risk
