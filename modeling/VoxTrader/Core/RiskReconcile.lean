import VoxTrader.Core.RiskRequest
import VoxTrader.Risk.Reservation

/-!
# Reconciling the reservations with a report

What the risk adapter does with a reconciliation report: it goes through the reservations that
hold capacity, oldest first, and runs one operation of the reservation reconciler on each. A
reservation whose request is still unresolved is held, one whose order the report lists is
brought to the lots that order has left, and any other is released.

## Main definitions

* `reconcileOp` — the operation a report calls for.
* `reconcile` — all of them in turn, stopping at the first error.
* `reconciled` — a reservation after its operation.

## Main results

* `reconcile_reservations` — a reconciliation that succeeds rewrites every reservation that held
  capacity, and no other, by its operation.
-/

namespace VoxTrader.Core

open VoxTrader.Runtime VoxTrader.Risk

/-- The text of an error of the reservation reconciler. -/
def reconcileErrorText : ReconcileError → String
  | .reservationNotFound => "risk reservation not found"
  | .invalidFill => "fill quantity must be non-zero"
  | .fillDirectionMismatch => "fill direction does not match the reservation"
  | .fillExceedsReservation => "fill exceeds remaining reserved quantity"
  | .terminalReservation => "terminal reservation cannot consume another fill"
  | .arithmeticOverflow => "risk reservation arithmetic overflow"
  | .store error => "risk store failure: " ++ storeErrorText error

/-- The order of the report that was placed for a request. -/
def matchingOrder (report : ReconciliationReport) (logicalRequestId : String) : Option OrderFact :=
  report.activeOrders.find? (·.logicalRequestId = some logicalRequestId)

/-- The operation a report calls for on the reservation of a request. -/
def reconcileOp (report : ReconciliationReport) (logicalRequestId : String) :
    Except RiskAdmissionError ReservationOp :=
  if logicalRequestId ∈ report.unresolvedLogicalRequestIds then .ok .unknownAfterDispatch
  else
    match matchingOrder report logicalRequestId with
    | some order =>
      (order.signedRemainingLots.mapError fun error =>
        .unavailable error.text).map .runtimeReconciliation
    | none => .ok .brokerAuthoritativeNoRemainingExposure

/-- Run the operations for some reservations in turn, up to the first error. -/
def reconcileEach (accountId : String) (report : ReconciliationReport) :
    List RiskReservation → RiskDb → Except RiskAdmissionError Unit × RiskDb
  | [], db => (.ok (), db)
  | r :: rest, db =>
    match reconcileOp report r.logicalRequestId with
    | .error e => (.error e, db)
    | .ok op =>
      match op.run accountId r.logicalRequestId report.completedAtUnixMs db with
      | (.error e, db') => (.error (.unavailable (reconcileErrorText e)), db')
      | (.ok _, db') => reconcileEach accountId report rest db'

/-- Reconcile the reservations of an account with a report. -/
def reconcile (accountId : String) (report : ReconciliationReport) (db : RiskDb) :
    Except RiskAdmissionError Unit × RiskDb :=
  reconcileEach accountId report (db.activeReservations accountId) db

/-- A reservation after the operation a report calls for. -/
def reconciled (report : ReconciliationReport) (r : RiskReservation) : RiskReservation :=
  match reconcileOp report r.logicalRequestId with
  | .error _ => r
  | .ok op => ((op.apply report.completedAtUnixMs r).toOption).getD r

/-! ## A reconciliation that succeeds -/

section

variable {accountId : String} {report : ReconciliationReport}

/-- An operation on a reservation of the table leaves the other rows as they are. -/
lemma run_reservations {op : ReservationOp} {now : I64} {db : RiskDb} {r : RiskReservation}
    (hr : r ∈ db.reservations) (haccount : r.accountId = accountId) :
    (op.run accountId r.logicalRequestId now db).2.reservations = db.reservations.map fun s =>
        if s.reservationId = r.reservationId then ((op.apply now r).toOption).getD r else s := by
  have hrow : db.reservationForRequest accountId r.logicalRequestId = some r :=
    RiskDb.reservationForRequest_eq_some.mpr ⟨hr, by rw [RiskReservation.request, haccount]⟩
  have hwrote : ReservationOp.Wrote now db r (((op.apply now r).toOption).getD r)
      (op.run accountId r.logicalRequestId now db).2 := (ReservationOp.run_eq_apply hrow).2
  generalize ((op.apply now r).toOption).getD r = r',
    (op.run accountId r.logicalRequestId now db).2 = db' at hwrote
  -- the row of `r` is the only one with its id
  have hself : ∀ s ∈ db.reservations, s.reservationId = r.reservationId → s = r :=
    fun s hs hid => db.reservationIds.eq_of_key_eq hs hr hid
  cases hwrote with
  | nothing =>
    refine (List.map_id' _).symm.trans (List.map_congr_left fun s hs => ?_)
    split_ifs with hid
    · exact hself s hs hid
    · rfl
  | row =>
    refine List.map_congr_left fun s hs => ?_
    split_ifs with hid
    · rw [hself s hs hid]
    · rfl

/-- An operation keeps the id of its reservation. -/
lemma reconciled_reservationId (r : RiskReservation) :
    (reconciled report r).reservationId = r.reservationId := by
  unfold reconciled
  split
  · rfl
  · rename_i op _
    rcases happly : op.apply report.completedAtUnixMs r with e | r'
    · rfl
    · cases ReservationOp.apply_effect happly <;> rfl

/-- The operation a report calls for goes through on a reservation. -/
def Reconcilable (report : ReconciliationReport) (r : RiskReservation) : Prop :=
  ∃ op r', reconcileOp report r.logicalRequestId = .ok op ∧
    op.apply report.completedAtUnixMs r = .ok r' ∧ reconciled report r = r'

/-- Going through reservations of the table with different ids rewrites each of them once. -/
lemma reconcileEach_reservations {l : List RiskReservation} :
    ∀ {db db' : RiskDb}, (∀ r ∈ l, r ∈ db.reservations ∧ r.accountId = accountId) →
      (l.map RiskReservation.reservationId).Nodup →
      reconcileEach accountId report l db = (.ok (), db') →
      (∀ r ∈ l, Reconcilable report r) ∧
      db'.reservations = db.reservations.map fun r => if r ∈ l then reconciled report r else r := by
  induction l with
  | nil =>
    intro db db' _ _ h
    rw [← (Prod.mk.inj h).2]
    simp
  | cons r rest ih =>
    intro db db' hmem hnodup h
    obtain ⟨hr, haccount⟩ := hmem r List.mem_cons_self
    rw [List.map_cons, List.nodup_cons] at hnodup
    -- the first operation is chosen and succeeds, and the rest goes on from its table
    rcases hop : reconcileOp report r.logicalRequestId with e | op
    · simp [reconcileEach, hop] at h
    rcases hrun : op.run accountId r.logicalRequestId report.completedAtUnixMs db with
      ⟨e | updated, db₁⟩
    · simp [reconcileEach, hop, hrun] at h
    simp only [reconcileEach, hop, hrun] at h
    have hupdated : op.apply report.completedAtUnixMs r = .ok updated := by
      have hrow : db.reservationForRequest accountId r.logicalRequestId = some r :=
        RiskDb.reservationForRequest_eq_some.mpr ⟨hr, by rw [RiskReservation.request, haccount]⟩
      rw [← (ReservationOp.run_eq_apply hrow).1, hrun]
    have hfirst : db₁.reservations = db.reservations.map fun s =>
        if s.reservationId = r.reservationId then reconciled report r else s := by
      have htable : db₁ = (op.run accountId r.logicalRequestId report.completedAtUnixMs db).2 := by
        rw [hrun]
      rw [htable, run_reservations hr haccount]
      simp only [reconciled, hop]
    have hother : ∀ s ∈ rest, s.reservationId ≠ r.reservationId := fun s hs hid =>
      hnodup.1 (hid ▸ List.mem_map_of_mem hs)
    have hrest : ∀ s ∈ rest, s ∈ db₁.reservations ∧ s.accountId = accountId := by
      intro s hs
      obtain ⟨hsdb, hsaccount⟩ := hmem s (List.mem_cons_of_mem _ hs)
      refine ⟨?_, hsaccount⟩
      rw [hfirst]
      exact List.mem_map.mpr ⟨s, hsdb, if_neg (hother s hs)⟩
    obtain ⟨hok, htable⟩ := ih hrest hnodup.2 h
    refine ⟨?_, ?_⟩
    · rintro s (_ | ⟨_, hs⟩)
      · exact ⟨op, updated, hop, hupdated, by simp only [reconciled, hop, hupdated]; rfl⟩
      · exact hok s hs
    · rw [htable, hfirst, List.map_map]
      refine List.map_congr_left fun s hs => ?_
      by_cases hid : s.reservationId = r.reservationId
      · have hsr : s = r := db.reservationIds.eq_of_key_eq hs hr hid
        have hnot : reconciled report r ∉ rest := fun hin =>
          hother _ hin (reconciled_reservationId r)
        simp [hsr, hnot]
      · have hsr : s ≠ r := fun h => hid (h ▸ rfl)
        simp [hid, hsr]

/-- The reservations that are gone through. -/
lemma mem_activeReservations {db : RiskDb} {r : RiskReservation} :
    r ∈ db.activeReservations accountId ↔
      r ∈ db.reservations ∧ r.accountId = accountId ∧ r.state.holdsCapacity = true := by
  simp [RiskDb.activeReservations, RiskDb.holding, List.mem_insertionSort]

/-- **A reconciliation that succeeds rewrites every reservation of the account that held
capacity, and no other, by the operation the report calls for.** -/
lemma reconcile_reservations {db db' : RiskDb} (h : reconcile accountId report db = (.ok (), db')) :
    (∀ r ∈ db.reservations, r.accountId = accountId → r.state.holdsCapacity = true →
      Reconcilable report r) ∧
    db'.reservations = db.reservations.map fun r =>
      if r.accountId = accountId ∧ r.state.holdsCapacity = true then reconciled report r
      else r := by
  have hnodup : ((db.activeReservations accountId).map RiskReservation.reservationId).Nodup := by
    refine (List.Perm.nodup_iff ((List.perm_insertionSort _ _).map _)).mpr ?_
    exact List.Nodup.sublist (List.filter_sublist.map _) db.reservationIds
  have hmem : ∀ r ∈ db.activeReservations accountId, r ∈ db.reservations ∧
      r.accountId = accountId := fun r hr =>
    ⟨(mem_activeReservations.mp hr).1, (mem_activeReservations.mp hr).2.1⟩
  obtain ⟨hok, htable⟩ := reconcileEach_reservations hmem hnodup h
  refine ⟨fun r hr haccount hholds =>
    hok r (mem_activeReservations.mpr ⟨hr, haccount, hholds⟩), ?_⟩
  rw [htable]
  refine List.map_congr_left fun r hr => ?_
  simp only [mem_activeReservations, hr, true_and]

end

end VoxTrader.Core
