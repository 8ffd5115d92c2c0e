import VoxTrader.Lib.Optimistic
import VoxTrader.Risk.Lifecycle

/-!
# Interleaved operations on one reservation

Two operations on the same reservation, run from two threads, with their reads and their write
transactions interleaved in any way. The write checks the state of the row again but not its
quantity, so a write planned from an older quantity can undo what happened in between:
`stale_fill_lost` loses a fill.

The operations are linearizable in every run whose writes find the row as their plan assumes it:
in a state the write does not accept any more (then nothing is written), or, unless the write is
a release, with the quantity that was read, or, for a runtime report, with a quantity the report
still fits.

## Main definitions

* `opCall` — an operation as a call that reads first and writes later.
* `Current` — the row is as the plan of an operation assumes it.

## Main results

* `write_eq_run` — a write on a row that is as its plan assumes does what the whole operation
  would do.
* `stale_fill_lost` — two fills, one of which is lost.
* `updates_linearizable` — runs in which every write is current are serial.
-/

namespace VoxTrader.Risk

open Optimistic

/-- An operation on the reservation of a request, as a call: it keeps the reservation it read and
the write it planned. -/
def opCall (accountId logicalRequestId : String) (op : ReservationOp) (now : I64) :
    Call RiskDb (Except ReconcileError RiskReservation) where
  Plan := RiskReservation × Update
  read db :=
    match op.read accountId logicalRequestId db with
    | .error e => .inl (.error e)
    | .ok (r, .unchanged) => .inl (.ok r)
    | .ok (r, .update u) => .inr (r, u)
  write plan db := ReservationOp.write plan.1 plan.2 now db

/-- Without interruption the call is the operation. -/
lemma opCall_atomic (accountId logicalRequestId : String) (op : ReservationOp) (now : I64)
    (db : RiskDb) :
    (opCall accountId logicalRequestId op now).atomic db =
      op.run accountId logicalRequestId now db := by
  rcases hread : op.read accountId logicalRequestId db with e | ⟨r, _ | u⟩ <;>
    simp only [Call.atomic, opCall, ReservationOp.run, hread]

/-- The row a plan is written to is as the plan assumes it: in a state the write does not accept,
or the operation is a release, or the quantity is the one that was read, or a runtime report
still passes its own checks on the row. -/
def Current (op : ReservationOp) (r : RiskReservation) (u : Update) (db : RiskDb) : Prop :=
  ∀ row, db.reservationById r.reservationId = some row → row.state ∈ u.expected →
    op.releasable ≠ [] ∨ row.remainingDeltaLots = r.remainingDeltaLots ∨
      ∃ q plan, op = .runtimeReconciliation q ∧ runtimeReconciliation q row = .ok plan

/-! ## A current write -/

variable {op : ReservationOp} {r row : RiskReservation} {u : Update}

/-- What an operation planned from the reservation it read, it plans again from a row that is as
the plan assumes it and in an accepted state. -/
lemma plan_of_current (hpre : op.precheck = .ok ()) (hplan : op.plan r = .ok (.update u))
    (hstate : row.state ∈ u.expected)
    (hcurrent : op.releasable ≠ [] ∨ row.remainingDeltaLots = r.remainingDeltaLots ∨
      ∃ q plan, op = .runtimeReconciliation q ∧ runtimeReconciliation q row = .ok plan) :
    op.plan row = .ok (.update u) := by
  cases op with
  | provenPreDispatchFailure => exact hplan
  | unknownAfterDispatch | orphanFailClosed =>
    obtain ⟨-, rfl⟩ := hold_eq_update.mp hplan
    have heq : row.remainingDeltaLots = r.remainingDeltaLots := by
      simpa [ReservationOp.releasable] using hcurrent
    refine hold_eq_update.mpr ⟨?_, by rw [heq]⟩
    rintro hs
    rw [hs] at hstate
    simp at hstate
  | authoritativeFill filled =>
    have hfilled : filled ≠ 0 := Except.stopIf_eq_ok.mp hpre
    have heq : row.remainingDeltaLots = r.remainingDeltaLots := by
      simpa [ReservationOp.releasable] using hcurrent
    obtain ⟨q, hu, -⟩ := authoritativeFill_eq_ok hfilled hplan
    cases hu
    simp only [ReservationOp.plan, authoritativeFill, Except.seq_eq_ok] at hplan ⊢
    rw [heq]
    obtain ⟨-, -, hrest⟩ := hplan
    exact ⟨(), Except.stopIf_eq_ok.mpr (not_not.mpr hstate), hrest⟩
  | dispatchAcknowledged => exact absurd hplan dispatchAcknowledged_ne_update
  | brokerAuthoritativeNoRemainingExposure | brokerAuthoritativeReject =>
    obtain ⟨-, rfl⟩ := release_eq_update.mp hplan
    refine release_eq_update.mpr ⟨?_, rfl⟩
    rintro (hs | hs) <;> rw [hs] at hstate <;> simp at hstate
  | runtimeReconciliation =>
    obtain ⟨hu, -, hfits, hne, habs⟩ := runtimeReconciliation_eq_ok.mp hplan
    cases hu
    rcases hcurrent with hrelease | heq | ⟨q', plan, hq, hcheck⟩
    · exact absurd rfl hrelease
    · rw [← heq] at hfits hne habs
      exact runtimeReconciliation_eq_ok.mpr ⟨rfl, hstate, hfits, hne, habs⟩
    · cases hq
      obtain ⟨-, -, hrest⟩ := runtimeReconciliation_eq_ok.mp hcheck
      exact runtimeReconciliation_eq_ok.mpr ⟨rfl, hstate, hrest⟩

/-- **A current write does what the whole operation would do.** When the row is in a state the
write does not accept, neither changes it; otherwise the operation would plan the same write. -/
lemma write_eq_run {accountId logicalRequestId : String} {now : I64} {db : RiskDb}
    (hpre : op.precheck = .ok ()) (hplan : op.plan r = .ok (.update u))
    (hrow : db.reservationForRequest accountId logicalRequestId = some row)
    (hid : row.reservationId = r.reservationId) (hcurrent : Current op r u db) :
    (ReservationOp.write r u now db).2 = (op.run accountId logicalRequestId now db).2 ∧
      ∀ updated, (ReservationOp.write r u now db).1 = .ok updated →
        (op.run accountId logicalRequestId now db).1 = .ok updated := by
  have hbyid : db.reservationById r.reservationId = some row := by
    rw [← hid]
    exact RiskDb.reservationById_of_mem (RiskDb.reservationForRequest_eq_some.mp hrow).1
  rw [ReservationOp.write_of_mem hbyid]
  by_cases hstate : row.state ∈ u.expected
  · have hrun : op.run accountId logicalRequestId now db = ReservationOp.write row u now db := by
      have hread : op.read accountId logicalRequestId db = .ok (row, .update u) := by
        simp only [ReservationOp.read, Except.seq_eq_ok, Except.exists_unit_ok, Except.orStop_eq_ok]
        exact ⟨hpre, row, hrow, .update u,
          plan_of_current hpre hplan hstate (hcurrent row hbyid hstate), rfl⟩
      simp only [ReservationOp.run, hread]
    rw [hrun, ReservationOp.write_of_mem (by rw [hid]; exact hbyid), hid]
    exact ⟨rfl, fun updated h => h⟩
  · rw [if_neg hstate]
    refine ⟨?_, fun updated h => by cases h⟩
    rw [(ReservationOp.plan_effect now hpre hplan).1] at hstate
    exact (ReservationOp.run_of_not_expected hrow hstate).symm

/-! ## Two operations -/

section Two

variable (accountId logicalRequestId : String) (op : Bool → ReservationOp) (now : Bool → I64)

/-- Two operations on the reservation of one request. -/
def pair (i : Bool) : Call RiskDb (Except ReconcileError RiskReservation) :=
  opCall accountId logicalRequestId (op i) (now i)

/-- Every write of the run finds its row as its plan assumes it. -/
def CurrentStep (cfg : Config (pair accountId logicalRequestId op now)) (i : Bool) : Prop :=
  ∀ plan, cfg.phase i = .planned plan → Current (op i) plan.1 plan.2 cfg.shared

variable {accountId logicalRequestId op now}

/-- The plans that are kept were made by their operations, from the reservation of the request,
whose id does not change. -/
structure Planned (reservationId : String)
    (cfg : Config (pair accountId logicalRequestId op now)) : Prop where
  row : ∃ r, cfg.shared.reservationForRequest accountId logicalRequestId = some r ∧
    r.reservationId = reservationId
  plan : ∀ (i : Bool) (r : RiskReservation) (u : Update), cfg.phase i = .planned (r, u) →
    (op i).precheck = .ok () ∧ (op i).plan r = .ok (.update u) ∧ r.reservationId = reservationId

variable {r : RiskReservation} {db : RiskDb} {reservationId : String}
  {cfg : Config (pair accountId logicalRequestId op now)} {schedule : List Bool}
  {r₀ : RiskReservation}

/-- A write keeps a reservation under its request, with its id. -/
lemma write_row {row : RiskReservation} {u : Update} {now : I64}
    (hrow : db.reservationForRequest accountId logicalRequestId = some row)
    (hid : row.reservationId = r.reservationId) :
    ∃ row', (ReservationOp.write r u now db).2.reservationForRequest accountId
        logicalRequestId = some row' ∧ row'.reservationId = row.reservationId := by
  have hbyid : db.reservationById r.reservationId = some row := by
    rw [← hid]
    exact RiskDb.reservationById_of_mem (RiskDb.reservationForRequest_eq_some.mp hrow).1
  rw [ReservationOp.write_of_mem hbyid]
  by_cases hstate : row.state ∈ u.expected
  · rw [if_pos hstate, RiskDb.reservationForRequest_setReservation, hrow, Option.map_some,
      if_pos hid]
    exact ⟨_, rfl, rfl⟩
  · rw [if_neg hstate]
    exact ⟨row, hrow, rfl⟩

/-- A step keeps the plans in order. -/
lemma Planned.step (i : Bool) (h : Planned reservationId cfg) :
    Planned reservationId (step cfg i) := by
  obtain ⟨row, hrow, hid⟩ := h.row
  unfold Optimistic.step
  split
  next hphase =>
    split
    next result hread =>
      refine ⟨h.row, fun j r u hj => ?_⟩
      by_cases hji : j = i
      · subst hji
        simp [finish] at hj
      · exact h.plan j r u (by simpa [finish, hji] using hj)
    next plan hread =>
      refine ⟨h.row, fun j r u hj => ?_⟩
      by_cases hji : j = i
      · subst hji
        simp only [Function.update_self] at hj
        obtain rfl : plan = (r, u) := Phase.planned.inj hj
        -- the plan was just made from the reservation in the store
        simp only [pair, opCall] at hread
        split at hread
        next => cases hread
        next => cases hread
        next r' u' hplan =>
          cases hread
          simp only [ReservationOp.read, Except.seq_eq_ok, Except.exists_unit_ok,
            Except.orStop_eq_ok, hrow, Option.some.injEq, Except.ok.injEq, Prod.mk.injEq] at hplan
          obtain ⟨hpre, _, rfl, _, hplan, rfl, rfl⟩ := hplan
          exact ⟨hpre, hplan, hid⟩
      · exact h.plan j r u (by simpa [hji] using hj)
  next plan hphase =>
    obtain ⟨r, u⟩ := plan
    obtain ⟨-, -, hr⟩ := h.plan i r u hphase
    obtain ⟨row', hrow', hid'⟩ : ∃ row', (ReservationOp.write r u (now i)
        cfg.shared).2.reservationForRequest accountId logicalRequestId = some row' ∧
          row'.reservationId = row.reservationId := write_row hrow (hid.trans hr.symm)
    refine ⟨⟨row', hrow', hid'.trans hid⟩, fun j r u hj => ?_⟩
    by_cases hji : j = i
    · subst hji
      simp [finish] at hj
    · exact h.plan j r u (by simpa [finish, hji] using hj)
  next => exact h

/-- The results that count as success. -/
def Succeeded (result : Except ReconcileError RiskReservation) : Prop := ∃ r, result = .ok r

/-- A write that finds its row as its plan assumes it is fresh. -/
lemma fresh_of_current {i : Bool} (h : Planned reservationId cfg)
    (hcurrent : CurrentStep accountId logicalRequestId op now cfg i) : Fresh Succeeded cfg i := by
  rintro ⟨r, u⟩ hphase
  obtain ⟨row, hrow, hid⟩ := h.row
  obtain ⟨hpre, hplan, hr⟩ := h.plan i r u hphase
  have hwrite : (ReservationOp.write r u (now i) cfg.shared).2 =
        ((op i).run accountId logicalRequestId (now i) cfg.shared).2 ∧
      ∀ updated, (ReservationOp.write r u (now i) cfg.shared).1 = .ok updated →
        ((op i).run accountId logicalRequestId (now i) cfg.shared).1 = .ok updated :=
    write_eq_run hpre hplan hrow (hid.trans hr.symm) (hcurrent (r, u) hphase)
  have hatomic : (pair accountId logicalRequestId op now i).atomic cfg.shared =
      (op i).run accountId logicalRequestId (now i) cfg.shared := opCall_atomic ..
  rw [hatomic]
  refine ⟨hwrite.1, ?_⟩
  rintro ⟨updated, hupdated⟩
  exact (hwrite.2 updated hupdated).trans hupdated.symm

/-- Along a run in which every write is current, every step is fresh. -/
lemma allSteps_fresh :
    ∀ {cfg : Config (pair accountId logicalRequestId op now)}, Planned reservationId cfg →
      AllSteps (CurrentStep accountId logicalRequestId op now) cfg schedule →
      AllSteps (Fresh Succeeded) cfg schedule := by
  induction schedule with
  | nil => exact fun _ _ => trivial
  | cons i schedule ih =>
    exact fun h hsteps => ⟨fresh_of_current h hsteps.1, ih (h.step i) hsteps.2⟩

/-- Along a run in which every write is current, the quantity does not grow. -/
lemma remaining_le_of_allSteps :
    ∀ {cfg : Config (pair accountId logicalRequestId op now)}, Planned reservationId cfg →
      AllSteps (CurrentStep accountId logicalRequestId op now) cfg schedule → ∀ r r',
      cfg.shared.reservationForRequest accountId logicalRequestId = some r →
      (run cfg schedule).shared.reservationForRequest accountId logicalRequestId = some r' →
      r'.remainingDeltaLots.val.natAbs ≤ r.remainingDeltaLots.val.natAbs := by
  induction schedule with
  | nil =>
    intro cfg _ _ r r' hr hr'
    obtain rfl : r = r' := Option.some.inj (hr.symm.trans hr')
    exact le_refl _
  | cons i schedule ih =>
    intro cfg h hsteps r r' hr hr'
    rcases step_shared (fresh_of_current h hsteps.1) with hshared | hshared
    · exact ih (h.step i) hsteps.2 r r' (by rw [hshared]; exact hr) hr'
    · have hatomic : (pair accountId logicalRequestId op now i).atomic cfg.shared =
          (op i).run accountId logicalRequestId (now i) cfg.shared := opCall_atomic ..
      have hrow : ((op i).run accountId logicalRequestId (now i)
          cfg.shared).2.reservationForRequest accountId logicalRequestId =
            some (((op i).apply (now i) r).toOption.getD r) :=
        ReservationOp.reservationForRequest_run hr
      rw [← hatomic, ← hshared] at hrow
      refine (ih (h.step i) hsteps.2 _ r' hrow hr').trans ?_
      rcases happly : (op i).apply (now i) r with e | r₁
      · exact le_refl _
      · exact (ReservationOp.apply_effect happly).progress.le

/-- At the start there are no plans. -/
lemma planned_start (hrow : db.reservationForRequest accountId logicalRequestId = some r₀) :
    Planned r₀.reservationId (start (pair accountId logicalRequestId op now) db) :=
  ⟨⟨r₀, hrow, rfl⟩, fun _ _ _ h => by cases h⟩

/-- The steps of a prefix of a schedule are among its steps. -/
lemma allSteps_append {good : Config (pair accountId logicalRequestId op now) → Bool → Prop}
    {pre post : List Bool} : ∀ {cfg : Config (pair accountId logicalRequestId op now)},
      AllSteps good cfg (pre ++ post) ↔ AllSteps good cfg pre ∧
        AllSteps good (run cfg pre) post := by
  induction pre with
  | nil => exact fun {_} => ⟨fun h => ⟨trivial, h⟩, fun h => h.2⟩
  | cons i pre ih =>
    intro cfg
    simp only [List.cons_append, AllSteps, ih, and_assoc]
    rfl

/-- Along a prefix of a run the plans are in order. -/
lemma planned_run :
    ∀ {cfg : Config (pair accountId logicalRequestId op now)}, Planned reservationId cfg →
      Planned reservationId (run cfg schedule) := by
  induction schedule with
  | nil => exact fun h => h
  | cons i schedule ih => exact fun h => ih (h.step i)

/-- A fill that succeeds takes its lots off the reservation. -/
lemma fill_run {filled time : I64} {updated : RiskReservation}
    (hrow : db.reservationForRequest accountId logicalRequestId = some r)
    (hresult : ((ReservationOp.authoritativeFill filled).run accountId logicalRequestId time
      db).1 = .ok updated) :
    ((ReservationOp.authoritativeFill filled).run accountId logicalRequestId time
        db).2.reservationForRequest accountId logicalRequestId = some updated ∧
      updated.remainingDeltaLots.val = r.remainingDeltaLots.val - filled.val := by
  have happly : (ReservationOp.authoritativeFill filled).apply time r = .ok updated :=
    (ReservationOp.run_eq_apply hrow).1.symm.trans hresult
  have hafter : ((ReservationOp.authoritativeFill filled).run accountId logicalRequestId time
      db).2.reservationForRequest accountId logicalRequestId =
        some (((ReservationOp.authoritativeFill filled).apply time r).toOption.getD r) :=
    ReservationOp.reservationForRequest_run hrow
  rw [happly] at hafter
  refine ⟨hafter, ?_⟩
  obtain ⟨hpre, ⟨hplan, -⟩ | ⟨u, hplan, -, rfl⟩⟩ := ReservationOp.apply_eq_ok.mp happly
  · obtain ⟨q, hu, -⟩ := authoritativeFill_eq_ok (Except.stopIf_eq_ok.mp hpre) hplan
    cases hu
  · obtain ⟨q, hu, hq, -⟩ := authoritativeFill_eq_ok (Except.stopIf_eq_ok.mp hpre) hplan
    cases hu
    exact hq

/-- When both operations are done, they took effect one after the other. -/
lemma order_of_done (h : Linearized Succeeded db cfg)
    (hdone : ∀ i, ∃ result, cfg.phase i = .done result) : ∃ i, cfg.order = [i, !i] := by
  have hmem : ∀ i, i ∈ cfg.order := fun i => (h.done_iff i).mpr (hdone i)
  have hnodup := h.nodup
  -- a list of booleans without repetitions that has both of them has exactly these two
  generalize cfg.order = order at hmem hnodup ⊢
  rcases order with _ | ⟨i, _ | ⟨j, _ | ⟨k, rest⟩⟩⟩
  · exact absurd (hmem true) (by simp)
  · exact absurd (hmem (!i)) (by simp)
  · refine ⟨i, ?_⟩
    have hij : i ≠ j := by simpa using hnodup
    rw [Bool.eq_not.mpr hij.symm]
  · cases i <;> cases j <;> cases k <;> simp at hnodup

/-- The serial run of both operations, `i` first. -/
lemma serial_pair (db : RiskDb) (i : Bool) :
    serial (pair accountId logicalRequestId op now) db [i, !i] =
      ([(i, ((op i).run accountId logicalRequestId (now i) db).1),
          (!i, ((op (!i)).run accountId logicalRequestId (now (!i))
            ((op i).run accountId logicalRequestId (now i) db).2).1)],
        ((op (!i)).run accountId logicalRequestId (now (!i))
          ((op i).run accountId logicalRequestId (now i) db).2).2) := by
  simp only [serial, pair, opCall_atomic]

/-- Two fills that succeed one after the other take off both their lots. -/
lemma serial_fills {f₁ f₂ t₁ t₂ : I64} {r₁ r₂ : RiskReservation}
    (hrow : db.reservationForRequest accountId logicalRequestId = some r₀)
    (h₁ : ((ReservationOp.authoritativeFill f₁).run accountId logicalRequestId t₁ db).1 = .ok r₁)
    (h₂ : ((ReservationOp.authoritativeFill f₂).run accountId logicalRequestId t₂
      ((ReservationOp.authoritativeFill f₁).run accountId logicalRequestId t₁ db).2).1 = .ok r₂) :
    ((ReservationOp.authoritativeFill f₂).run accountId logicalRequestId t₂
        ((ReservationOp.authoritativeFill f₁).run accountId logicalRequestId t₁
          db).2).2.reservationForRequest accountId logicalRequestId = some r₂ ∧
      r₂.remainingDeltaLots.val = r₀.remainingDeltaLots.val - f₁.val - f₂.val := by
  obtain ⟨hrow₁, hq₁⟩ := fill_run hrow h₁
  obtain ⟨hrow₂, hq₂⟩ := fill_run hrow₁ h₂
  exact ⟨hrow₂, by omega⟩

end Two

/-- A fill of four lots and another operation, for the runs below. -/
def fillAnd (other : ReservationOp) : Bool → ReservationOp
  | false => .authoritativeFill (.lit 4)
  | true => other

/-- The times of the two operations. -/
def times : Bool → I64
  | false => .lit 2
  | true => .lit 3

/-- **A stale write loses a fill.** From ten lots, fills of four and of three both read ten and
then write one after the other: both succeed and seven lots remain, where either serial order
leaves three. -/
theorem stale_fill_lost : (∃ r₁ r₂, ∀ i, (run (start (pair "account-1" "request-1"
        (fillAnd (.authoritativeFill (.lit 3))) times) (RiskDb.single fixtureReservation))
        [false, true, false, true]).phase i = .done (.ok (if i then r₂ else r₁))) ∧
      ((run (start (pair "account-1" "request-1" (fillAnd (.authoritativeFill (.lit 3))) times)
        (RiskDb.single fixtureReservation)) [false, true, false, true]).shared.reservationForRequest
          "account-1" "request-1").map (·.remainingDeltaLots) = some (.lit 7) ∧
      ∀ i, (((fillAnd (.authoritativeFill (.lit 3)) (!i)).run "account-1" "request-1" (times (!i))
        ((fillAnd (.authoritativeFill (.lit 3)) i).run "account-1" "request-1" (times i)
          (RiskDb.single fixtureReservation)).2).2.reservationForRequest
            "account-1" "request-1").map (·.remainingDeltaLots) = some (.lit 3) := by
  refine ⟨⟨RiskDb.moved (.lit 6) .partiallyConsumed (.lit 2) fixtureReservation,
    RiskDb.moved (.lit 7) .partiallyConsumed (.lit 3)
      (RiskDb.moved (.lit 6) .partiallyConsumed (.lit 2) fixtureReservation), ?_⟩, rfl, ?_⟩
  all_goals
    intro i
    cases i <;> rfl

/-- **Operations on one reservation are linearizable as long as every write is current.** In every
run of two operations in which each write finds its row as its plan assumes it: the quantity never
grows; when both operations are done, the reservation is what one of the two serial orders leaves;
and two fills that succeed take off both their lots.

**Proof sketch.** A current write does what the whole operation would do at that moment
(`write_eq_run`), so the run is linearizable in the order of the writes (`Optimistic.linearizable`).
The rest is about serial runs: an operation does not raise the quantity, and a fill that succeeds
takes its lots off (`fill_run`). -/
theorem updates_linearizable (db : RiskDb) (accountId logicalRequestId : String)
    (op : Bool → ReservationOp) (now : Bool → I64) (r₀ : RiskReservation) (schedule : List Bool)
    (hrow : db.reservationForRequest accountId logicalRequestId = some r₀)
    (hcurrent : AllSteps (CurrentStep accountId logicalRequestId op now)
      (start (pair accountId logicalRequestId op now) db) schedule) :
    (∀ pre post r r', schedule = pre ++ post →
      (run (start (pair accountId logicalRequestId op now) db) pre).shared.reservationForRequest
        accountId logicalRequestId = some r →
      (run (start (pair accountId logicalRequestId op now) db)
        schedule).shared.reservationForRequest
        accountId logicalRequestId = some r' →
      r'.remainingDeltaLots.val.natAbs ≤ r.remainingDeltaLots.val.natAbs) ∧
    ((∀ i, ∃ result, (run (start (pair accountId logicalRequestId op now) db) schedule).phase i =
          .done result) →
      ∃ i, (run (start (pair accountId logicalRequestId op now) db)
          schedule).shared.reservationForRequest accountId logicalRequestId =
        ((op (!i)).run accountId logicalRequestId (now (!i))
          ((op i).run accountId logicalRequestId (now i) db).2).2.reservationForRequest accountId
            logicalRequestId) ∧
    (∀ f₁ f₂ r₁ r₂, op false = .authoritativeFill f₁ → op true = .authoritativeFill f₂ →
      (run (start (pair accountId logicalRequestId op now) db) schedule).phase false =
        .done (.ok r₁) →
      (run (start (pair accountId logicalRequestId op now) db) schedule).phase true =
        .done (.ok r₂) →
      ∃ r, (run (start (pair accountId logicalRequestId op now) db)
          schedule).shared.reservationForRequest accountId logicalRequestId = some r ∧
        r.remainingDeltaLots.val = r₀.remainingDeltaLots.val - f₁.val - f₂.val) := by
  have hplanned : Planned r₀.reservationId (start (pair accountId logicalRequestId op now) db) :=
    planned_start hrow
  have hlin := linearizable (linearized_start Succeeded db) (allSteps_fresh hplanned hcurrent)
  refine ⟨?_, ?_, ?_⟩
  · rintro pre post r r' rfl hr hr'
    refine remaining_le_of_allSteps (planned_run hplanned)
      (allSteps_append.mp hcurrent).2 r r' hr ?_
    rw [run, run, ← List.foldl_append]
    exact hr'
  · intro hdone
    obtain ⟨i, hi⟩ := order_of_done hlin hdone
    refine ⟨i, ?_⟩
    rw [hlin.shared, hi, serial_pair]
  · intro f₁ f₂ r₁ r₂ hop₁ hop₂ hdone₁ hdone₂
    obtain ⟨i, hi⟩ := order_of_done hlin fun i => by
      cases i
      · exact ⟨_, hdone₁⟩
      · exact ⟨_, hdone₂⟩
    have hres₁ := hlin.result false _ hdone₁ ⟨r₁, rfl⟩
    have hres₂ := hlin.result true _ hdone₂ ⟨r₂, rfl⟩
    rw [hlin.shared, hi, serial_pair]
    rw [hi, serial_pair] at hres₁ hres₂
    cases i
    · simp only [hop₁, hop₂, Bool.not_false, List.mem_cons, Prod.mk.injEq, Bool.false_eq_true,
        Bool.true_eq_false, true_and, false_and, List.not_mem_nil, or_false, false_or]
        at hres₁ hres₂ ⊢
      obtain ⟨hfinal, hq⟩ := serial_fills hrow hres₁.symm hres₂.symm
      exact ⟨r₂, hfinal, hq⟩
    · simp only [hop₁, hop₂, Bool.not_true, List.mem_cons, Prod.mk.injEq, Bool.false_eq_true,
        Bool.true_eq_false, true_and, false_and, List.not_mem_nil, or_false, false_or]
        at hres₁ hres₂ ⊢
      obtain ⟨hfinal, hq⟩ := serial_fills hrow hres₂.symm hres₁.symm
      exact ⟨r₁, hfinal, by omega⟩

/-- A fill and a rejection that both read first: the rejection, written last, is current, and the
reservation ends as the serial order fill, rejection leaves it. -/
theorem fill_and_reject_linearizable :
    ∃ i, (run (start (pair "account-1" "request-1" (fillAnd .brokerAuthoritativeReject) times)
        (RiskDb.single fixtureReservation)) [false, true, false, true]).shared.reservationForRequest
          "account-1" "request-1" =
      ((fillAnd .brokerAuthoritativeReject (!i)).run "account-1" "request-1" (times (!i))
        ((fillAnd .brokerAuthoritativeReject i).run "account-1" "request-1" (times i)
          (RiskDb.single fixtureReservation)).2).2.reservationForRequest
            "account-1" "request-1" := by
  refine (updates_linearizable (RiskDb.single fixtureReservation) "account-1" "request-1"
    (fillAnd .brokerAuthoritativeReject) times fixtureReservation [false, true, false, true] rfl
    ⟨?_, ?_, ?_, ?_, trivial⟩).2.1 ?_
  · intro plan h
    cases h
  · intro plan h
    cases h
  · rintro ⟨r, u⟩ h row hrow _
    cases h
    cases hrow
    exact .inr (.inl rfl)
  · intro plan h row _ _
    exact .inl (by decide)
  · intro i
    cases i
    all_goals exact ⟨_, rfl⟩

end VoxTrader.Risk
