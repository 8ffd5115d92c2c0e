import VoxTrader.Risk.Store

/-!
# The reservation reconciler

The operations that move a reservation once its order has been sent. Each reads the reservation
of a request, decides from what it read, and then, in a transaction of its own, writes a new
quantity and state if the reservation is still in one of the states it expects. Between the read
and the write the row may change: the write checks the state again but not the quantity.

An operation is therefore given in two parts, its `plan` from the reservation it read and the
write the plan asks for. Run with nothing in between they make up one atomic step, `apply` on the
row and `run` on the store.

## Main definitions

* `Update`, `Plan` — what an operation wants written.
* `provenPreDispatchFailure`, `unknownAfterDispatch`, `authoritativeFill`,
  `brokerAuthoritativeNoRemainingExposure`, `orphanFailClosed`, `dispatchAcknowledged`,
  `brokerAuthoritativeReject`, `runtimeReconciliation` — the operations.
* `ReservationOp` — an operation with its arguments; `read`, `write` its two parts.
* `ReservationOp.apply`, `ReservationOp.run` — the two parts in one step.
* `Effect` — the four things an operation can do to a reservation.

## Main results

* `apply_effect` — every operation has one of these effects.
* `run_eq_apply` — in the store an operation does to its row what `apply` says, and nothing else.
-/

namespace VoxTrader.Risk

open Except (seq_eq_ok stopIf orStop exists_unit_ok stopIf_eq_ok orStop_eq_ok)

/-- The errors of the reconciler. -/
inductive ReconcileError
  | reservationNotFound
  | invalidFill
  | fillDirectionMismatch
  | fillExceedsReservation
  | terminalReservation
  | arithmeticOverflow
  | store (error : RiskStoreError)
deriving DecidableEq

/-- A write: the states it expects, and the quantity and state it leaves. -/
structure Update where
  expected : List ReservationState
  remaining : I64
  state : ReservationState
deriving DecidableEq

/-- What an operation decides from the reservation it read: that there is nothing to do, or a
write. -/
inductive Plan
  | unchanged
  | update (u : Update)
deriving DecidableEq

/-- The states in which the order of a reservation may still be filled. -/
def liveStates : List ReservationState := [.active, .partiallyConsumed, .unknownHeld]

/-- The state a reservation is left in with `remaining` lots of its order open. -/
def consumedState (remaining : I64) : ReservationState :=
  if remaining = 0 then .consumed else .partiallyConsumed

/-! ## The operations -/

/-- Dispatch is proven not to have happened. -/
def provenPreDispatchFailure (_ : RiskReservation) : Except ReconcileError Plan :=
  .ok (.update ⟨[.active], 0, .released⟩)

/-- Keep the remaining quantity, in a state that waits for evidence. -/
def hold (target : ReservationState) (r : RiskReservation) : Except ReconcileError Plan :=
  if r.state = target then .ok .unchanged
  else .ok (.update ⟨[.active, .partiallyConsumed], r.remainingDeltaLots, target⟩)

/-- The outcome of the dispatch is unknown. -/
def unknownAfterDispatch : RiskReservation → Except ReconcileError Plan := hold .unknownHeld

/-- The reservation is expired or unmatched after a restart. -/
def orphanFailClosed : RiskReservation → Except ReconcileError Plan := hold .orphaned

/-- The broker reports `filled` lots. -/
def authoritativeFill (filled : I64) (r : RiskReservation) : Except ReconcileError Plan := do
  stopIf (r.state ∉ liveStates) .terminalReservation
  stopIf (r.remainingDeltaLots.signum ≠ filled.signum) .fillDirectionMismatch
  stopIf (r.remainingDeltaLots.unsignedAbs < filled.unsignedAbs) .fillExceedsReservation
  let remaining ← orStop (r.remainingDeltaLots.checkedSub filled) .arithmeticOverflow
  .ok (.update ⟨liveStates, remaining, consumedState remaining⟩)

/-- Free the whole reservation on the broker's word. -/
def release (r : RiskReservation) : Except ReconcileError Plan :=
  if r.state = .consumed ∨ r.state = .released then .ok .unchanged
  else .ok (.update ⟨[.active, .partiallyConsumed, .unknownHeld, .orphaned], 0, .released⟩)

/-- Reconciliation shows that no exposure of the order remains. -/
def brokerAuthoritativeNoRemainingExposure : RiskReservation → Except ReconcileError Plan :=
  release

/-- The broker rejected the order. -/
def brokerAuthoritativeReject : RiskReservation → Except ReconcileError Plan := release

/-- The broker acknowledged the order; the reservation stays as it is. -/
def dispatchAcknowledged (r : RiskReservation) : Except ReconcileError Plan := do
  stopIf (r.state ∉ liveStates) .terminalReservation
  .ok .unchanged

/-- The runtime reports `runtimeRemaining` lots of the order open. -/
def runtimeReconciliation (runtimeRemaining : I64) (r : RiskReservation) :
    Except ReconcileError Plan := do
  stopIf (r.state ∉ liveStates) .terminalReservation
  stopIf (r.remainingDeltaLots.signum = 0) .invalidFill
  stopIf (runtimeRemaining ≠ 0 ∧
    runtimeRemaining.signum ≠ r.remainingDeltaLots.signum) .fillDirectionMismatch
  let runtimeAbs ← orStop runtimeRemaining.checkedAbs .arithmeticOverflow
  let originalAbs ← orStop r.remainingDeltaLots.checkedAbs .arithmeticOverflow
  stopIf (originalAbs.val < runtimeAbs.val) .fillExceedsReservation
  .ok (.update ⟨liveStates, runtimeRemaining, consumedState runtimeRemaining⟩)

/-- An operation of the reconciler with its arguments. -/
inductive ReservationOp
  | provenPreDispatchFailure
  | unknownAfterDispatch
  | authoritativeFill (filled : I64)
  | brokerAuthoritativeNoRemainingExposure
  | orphanFailClosed
  | dispatchAcknowledged
  | brokerAuthoritativeReject
  | runtimeReconciliation (runtimeRemaining : I64)
deriving DecidableEq

namespace ReservationOp

/-- What is checked before the reservation is read: a fill has to move some lots. -/
def precheck : ReservationOp → Except ReconcileError Unit
  | .authoritativeFill filled => stopIf (filled = 0) .invalidFill
  | _ => .ok ()

/-- What the operation decides from the reservation it read. -/
def plan : ReservationOp → RiskReservation → Except ReconcileError Plan
  | .provenPreDispatchFailure => Risk.provenPreDispatchFailure
  | .unknownAfterDispatch => Risk.unknownAfterDispatch
  | .authoritativeFill filled => Risk.authoritativeFill filled
  | .brokerAuthoritativeNoRemainingExposure => Risk.brokerAuthoritativeNoRemainingExposure
  | .orphanFailClosed => Risk.orphanFailClosed
  | .dispatchAcknowledged => Risk.dispatchAcknowledged
  | .brokerAuthoritativeReject => Risk.brokerAuthoritativeReject
  | .runtimeReconciliation runtimeRemaining => Risk.runtimeReconciliation runtimeRemaining

/-- The part of the operation that reads. -/
def read (op : ReservationOp) (accountId logicalRequestId : String) (db : RiskDb) :
    Except ReconcileError (RiskReservation × Plan) := do
  op.precheck
  let r ← orStop (db.reservationForRequest accountId logicalRequestId) .reservationNotFound
  let plan ← op.plan r
  .ok (r, plan)

/-- The part of an operation that writes, for the reservation that was read. -/
def write (r : RiskReservation) (u : Update) (now : I64) (db : RiskDb) :
    Except ReconcileError RiskReservation × RiskDb :=
  match db.updateReservation r.reservationId u.expected u.remaining u.state now with
  | .ok (updated, db') => (.ok updated, db')
  | .error e => (.error (.store e), db)

/-- Both parts with nothing in between. -/
def run (op : ReservationOp) (accountId logicalRequestId : String) (now : I64) (db : RiskDb) :
    Except ReconcileError RiskReservation × RiskDb :=
  match op.read accountId logicalRequestId db with
  | .error e => (.error e, db)
  | .ok (r, .unchanged) => (.ok r, db)
  | .ok (r, .update u) => write r u now db

/-- What the operation does to its reservation when nothing comes in between. -/
def apply (op : ReservationOp) (now : I64) (r : RiskReservation) :
    Except ReconcileError RiskReservation := do
  op.precheck
  match ← op.plan r with
  | .unchanged => .ok r
  | .update u => do
    stopIf (r.state ∉ u.expected) (.store .invalidTransition)
    .ok (RiskDb.moved u.remaining u.state now r)

/-! ## The effect of an operation -/

/-- The states an operation releases from. -/
def releasable : ReservationOp → List ReservationState
  | .provenPreDispatchFailure => [.active]
  | .brokerAuthoritativeNoRemainingExposure | .brokerAuthoritativeReject =>
    [.active, .partiallyConsumed, .unknownHeld, .orphaned]
  | _ => []

/-- The states the write of an operation accepts. -/
def expected : ReservationOp → List ReservationState
  | .provenPreDispatchFailure => [.active]
  | .unknownAfterDispatch | .orphanFailClosed => [.active, .partiallyConsumed]
  | .authoritativeFill _ | .runtimeReconciliation _ => liveStates
  | .brokerAuthoritativeNoRemainingExposure | .brokerAuthoritativeReject =>
    [.active, .partiallyConsumed, .unknownHeld, .orphaned]
  | .dispatchAcknowledged => []

/-- The state an operation holds a reservation in. -/
def holdState : ReservationOp → Option ReservationState
  | .unknownAfterDispatch => some .unknownHeld
  | .orphanFailClosed => some .orphaned
  | _ => none

/-- The operations that bring the quantity down to what is still open. -/
def consumes : ReservationOp → Bool
  | .authoritativeFill _ | .runtimeReconciliation _ => true
  | _ => false

end ReservationOp

/-- The quantity `q` is what can be left of `remaining`: none, or not more of the same sign. -/
def FitsInto (q remaining : I64) : Prop :=
  (q = 0 ∨ q.signum = remaining.signum) ∧ q.val.natAbs ≤ remaining.val.natAbs

/-- **The four things an operation can do to a reservation**: leave it, release it, hold it with
its quantity, or bring its quantity down. -/
inductive Effect (op : ReservationOp) (now : I64) (r : RiskReservation) : RiskReservation → Prop
  | unchanged : Effect op now r r
  | released (h : r.state ∈ op.releasable) : Effect op now r (RiskDb.moved 0 .released now r)
  | held (target : ReservationState) (htarget : target ∈ op.holdState)
      (h : r.state ∈ [ReservationState.active, .partiallyConsumed]) :
      Effect op now r (RiskDb.moved r.remainingDeltaLots target now r)
  | consumed (q : I64) (hop : op.consumes = true) (h : r.state ∈ liveStates)
      (hfits : FitsInto q r.remainingDeltaLots) (hnonzero : r.remainingDeltaLots ≠ 0) :
      Effect op now r (RiskDb.moved q (consumedState q) now r)

variable {filled q : I64} {op : ReservationOp} {now : I64} {r r' : RiskReservation} {u : Update}
  {plan : Plan}

/-- What is left after a fill in the direction of the reservation, and no larger, fits into it. -/
lemma fitsInto_of_fill {remaining : I64} (hfilled : filled ≠ 0)
    (hsign : remaining.signum = filled.signum) (hle : ¬ remaining.unsignedAbs < filled.unsignedAbs)
    (hq : q.val = remaining.val - filled.val) : FitsInto q remaining ∧ remaining ≠ 0 := by
  unfold FixedInt.unsignedAbs at hle
  have hsides : remaining.val < 0 ∧ filled.val < 0 ∨ 0 < remaining.val ∧ 0 < filled.val := by
    rcases FixedInt.neg_or_pos_of_ne_zero hfilled with hneg | hpos
    · exact .inl ⟨(FixedInt.signum_eq_of_neg hneg).mp hsign, hneg⟩
    · exact .inr ⟨(FixedInt.signum_eq_of_pos hpos).mp hsign, hpos⟩
  have hne : remaining ≠ 0 := fun h => by
    have := FixedInt.val_eq_zero.mpr h
    omega
  refine ⟨⟨?_, by omega⟩, hne⟩
  by_cases hq0 : q.val = 0
  · exact .inl (FixedInt.val_eq_zero.mp hq0)
  · rcases FixedInt.neg_or_pos_of_ne_zero hne with hneg | hpos
    · exact .inr ((FixedInt.signum_eq_of_neg hneg).mpr (by omega))
    · exact .inr ((FixedInt.signum_eq_of_pos hpos).mpr (by omega))

/-- An operation that succeeds kept its reservation or made the write it planned. -/
lemma ReservationOp.apply_eq_ok : op.apply now r = .ok r' ↔ op.precheck = .ok () ∧
      ((op.plan r = .ok .unchanged ∧ r' = r) ∨
        ∃ u, op.plan r = .ok (.update u) ∧ r.state ∈ u.expected ∧
          r' = RiskDb.moved u.remaining u.state now r) := by
  simp only [ReservationOp.apply, seq_eq_ok, exists_unit_ok]
  refine and_congr_right fun _ => ?_
  constructor
  · rintro ⟨plan, hplan, h⟩
    rcases plan with _ | u
    · exact .inl ⟨hplan, (Except.ok.inj h).symm⟩
    · simp only [seq_eq_ok, stopIf_eq_ok, not_not, exists_const, Except.ok.injEq] at h
      exact .inr ⟨u, hplan, h.1, h.2.symm⟩
  · rintro (⟨hplan, rfl⟩ | ⟨u, hplan, hstate, rfl⟩)
    · exact ⟨.unchanged, hplan, rfl⟩
    · refine ⟨.update u, hplan, ?_⟩
      simp only [seq_eq_ok, stopIf_eq_ok, not_not, exists_const]
      exact ⟨hstate, trivial⟩

/-- The write a hold plans. -/
lemma hold_eq_update {target : ReservationState} :
    hold target r = .ok (.update u) ↔ r.state ≠ target ∧
      ⟨[.active, .partiallyConsumed], r.remainingDeltaLots, target⟩ = u := by
  unfold hold
  by_cases h : r.state = target <;> simp [h]

/-- The write a release plans. -/
lemma release_eq_update :
    release r = .ok (.update u) ↔ ¬ (r.state = .consumed ∨ r.state = .released) ∧
      ⟨[.active, .partiallyConsumed, .unknownHeld, .orphaned], 0, .released⟩ = u := by
  unfold release
  by_cases h : r.state = .consumed ∨ r.state = .released
  · rw [if_pos h]
    simp [h]
  · rw [if_neg h]
    simp [h]

/-- An acknowledgement plans no write. -/
lemma dispatchAcknowledged_ne_update : dispatchAcknowledged r ≠ .ok (.update u) := by
  intro h
  simp only [dispatchAcknowledged, seq_eq_ok, Except.ok.injEq] at h
  obtain ⟨_, _, h⟩ := h
  cases h

/-- The write a fill plans, and what it has checked. -/
lemma authoritativeFill_eq_ok (hfilled : filled ≠ 0) (h : authoritativeFill filled r = .ok plan) :
    ∃ q : I64, plan = .update ⟨liveStates, q, consumedState q⟩ ∧
      q.val = r.remainingDeltaLots.val - filled.val ∧
      r.state ∈ liveStates ∧ FitsInto q r.remainingDeltaLots ∧ r.remainingDeltaLots ≠ 0 := by
  simp only [authoritativeFill, seq_eq_ok, stopIf_eq_ok, not_not, exists_const,
    orStop_eq_ok, FixedInt.checkedSub_eq_some, Except.ok.injEq] at h
  obtain ⟨hstate, hsign, hle, q, hq, rfl⟩ := h
  obtain ⟨hfits, hne⟩ := fitsInto_of_fill hfilled hsign hle hq
  exact ⟨q, rfl, hq, hstate, hfits, hne⟩

/-- The write a runtime report plans, and what it has checked: the report fits into the remaining
quantity, and the latter has an absolute value. -/
lemma runtimeReconciliation_eq_ok : runtimeReconciliation q r = .ok plan ↔
      .update ⟨liveStates, q, consumedState q⟩ = plan ∧ r.state ∈ liveStates ∧
        FitsInto q r.remainingDeltaLots ∧ r.remainingDeltaLots ≠ 0 ∧
        r.remainingDeltaLots.checkedAbs ≠ none := by
  simp only [runtimeReconciliation, seq_eq_ok, stopIf_eq_ok, not_not, exists_const,
    orStop_eq_ok, FixedInt.checkedAbs_eq_some, Except.ok.injEq]
  have hsignum : r.remainingDeltaLots.signum = 0 ↔ r.remainingDeltaLots = 0 := by
    rw [FixedInt.signum, Int.sign_eq_zero_iff_zero, FixedInt.val_eq_zero]
  rw [hsignum]
  constructor
  · rintro ⟨hlive, hne, hsign, runtimeAbs, hq, originalAbs, hr, hle, hplan⟩
    refine ⟨hplan, hlive, ⟨?_, by omega⟩, hne, ?_⟩
    · by_cases hq0 : q = 0
      · exact .inl hq0
      · exact .inr (by_contra fun hdiff => hsign ⟨hq0, hdiff⟩)
    · rw [FixedInt.checkedAbs_eq_some.mpr hr]
      exact Option.some_ne_none _
  · rintro ⟨hplan, hlive, ⟨hsign, hle⟩, hne, habs⟩
    obtain ⟨originalAbs, hr⟩ := Option.ne_none_iff_exists'.mp habs
    have hr := FixedInt.checkedAbs_eq_some.mp hr
    obtain ⟨runtimeAbs, hq⟩ : ∃ b : I64, b.val = q.val.natAbs :=
      ⟨⟨q.val.natAbs, by omega, by have := originalAbs.upper; omega⟩, rfl⟩
    refine ⟨hlive, hne, ?_, runtimeAbs, hq, originalAbs, hr, by omega, hplan⟩
    rintro ⟨hq0, hdiff⟩
    exact hsign.elim hq0 hdiff

/-- **A planned write** accepts the states of its operation, and has one of the four effects. -/
lemma ReservationOp.plan_effect (now : I64) (hpre : op.precheck = .ok ())
    (hplan : op.plan r = .ok (.update u)) : u.expected = op.expected ∧
      (r.state ∈ u.expected → Effect op now r (RiskDb.moved u.remaining u.state now r)) := by
  cases op with
  | provenPreDispatchFailure =>
    cases hplan
    exact ⟨rfl, fun hstate => .released hstate⟩
  | unknownAfterDispatch =>
    obtain ⟨-, rfl⟩ := hold_eq_update.mp hplan
    exact ⟨rfl, fun hstate => .held .unknownHeld rfl hstate⟩
  | orphanFailClosed =>
    obtain ⟨-, rfl⟩ := hold_eq_update.mp hplan
    exact ⟨rfl, fun hstate => .held .orphaned rfl hstate⟩
  | authoritativeFill filled =>
    have hfilled : filled ≠ 0 := Except.stopIf_eq_ok.mp hpre
    obtain ⟨q, hu, -, -, hfits, hne⟩ := authoritativeFill_eq_ok hfilled hplan
    cases hu
    exact ⟨rfl, fun hlive => .consumed q rfl hlive hfits hne⟩
  | dispatchAcknowledged => exact absurd hplan dispatchAcknowledged_ne_update
  | brokerAuthoritativeNoRemainingExposure | brokerAuthoritativeReject =>
    obtain ⟨-, rfl⟩ := release_eq_update.mp hplan
    exact ⟨rfl, fun hstate => .released hstate⟩
  | runtimeReconciliation q =>
    obtain ⟨hu, -, hfits, hne, -⟩ := runtimeReconciliation_eq_ok.mp hplan
    cases hu
    exact ⟨rfl, fun hlive => .consumed q rfl hlive hfits hne⟩

/-- **Every operation has one of the four effects.** -/
lemma ReservationOp.apply_effect (h : op.apply now r = .ok r') : Effect op now r r' := by
  obtain ⟨hpre, ⟨hplan, rfl⟩ | ⟨u, hplan, hstate, rfl⟩⟩ := ReservationOp.apply_eq_ok.mp h
  · exact .unchanged
  · exact (plan_effect now hpre hplan).2 hstate

/-! ## Operations in the store -/

namespace ReservationOp

variable {op : ReservationOp} {accountId logicalRequestId : String} {now : I64} {db : RiskDb}
  {r : RiskReservation}

/-- The write of an operation, on a reservation that is in the store. -/
lemma write_of_mem {current : RiskReservation} {u : Update}
    (hid : db.reservationById r.reservationId = some current) :
    write r u now db = if current.state ∈ u.expected then
        (.ok (RiskDb.moved u.remaining u.state now current),
          db.setReservation r.reservationId u.remaining u.state now)
      else (.error (.store .invalidTransition), db) := by
  unfold write
  by_cases hstate : current.state ∈ u.expected
  · rw [if_pos hstate, RiskDb.updateReservation_eq_ok.mpr ⟨current, hid, hstate, rfl, rfl⟩]
  · have herror : db.updateReservation r.reservationId u.expected u.remaining u.state now =
        .error .invalidTransition := by
      simp [RiskDb.updateReservation, hid, orStop, stopIf, hstate, bind, Except.bind]
    rw [if_neg hstate, herror]

/-- The store writes a reservation that stays as it is, or moves the row of the one that was
read. -/
inductive Wrote (now : I64) (db : RiskDb) (r : RiskReservation) : RiskReservation → RiskDb → Prop
  | nothing : Wrote now db r r db
  | row (q : I64) (state : ReservationState) : Wrote now db r (RiskDb.moved q state now r)
      (db.setReservation r.reservationId q state now)

/-- **In the store, an operation does to its reservation what `apply` says.** It returns the same
result, and it writes nothing else. -/
lemma run_eq_apply (h : db.reservationForRequest accountId logicalRequestId = some r) :
    (op.run accountId logicalRequestId now db).1 = op.apply now r ∧
      Wrote now db r ((op.apply now r).toOption.getD r)
        (op.run accountId logicalRequestId now db).2 := by
  have hid := RiskDb.reservationById_of_mem (RiskDb.reservationForRequest_eq_some.mp h).1
  have hread : op.read accountId logicalRequestId db =
      (op.precheck >>= fun _ => op.plan r >>= fun plan => .ok (r, plan)) := by
    simp only [read, h, orStop]
    rfl
  unfold run apply
  rw [hread]
  rcases op.precheck with e | _
  · exact ⟨rfl, .nothing⟩
  rcases op.plan r with e | _ | u
  · exact ⟨rfl, .nothing⟩
  · exact ⟨rfl, .nothing⟩
  -- what is left is the write
  change (write r u now db).1 = (stopIf (r.state ∉ u.expected) _ >>= fun _ => .ok _) ∧
    Wrote now db r ((stopIf (r.state ∉ u.expected) _ >>= fun _ => .ok _).toOption.getD r)
      (write r u now db).2
  rw [write_of_mem hid]
  by_cases hstate : r.state ∈ u.expected
  · rw [if_pos hstate, stopIf, if_neg (not_not.mpr hstate)]
    exact ⟨rfl, .row _ _⟩
  · rw [if_neg hstate, stopIf, if_pos hstate]
    exact ⟨rfl, .nothing⟩

/-- An operation changes nothing when the reservation is in a state its write does not accept. -/
lemma run_of_not_expected (h : db.reservationForRequest accountId logicalRequestId = some r)
    (hstate : r.state ∉ op.expected) : (op.run accountId logicalRequestId now db).2 = db := by
  have hid := RiskDb.reservationById_of_mem (RiskDb.reservationForRequest_eq_some.mp h).1
  rcases hread : op.read accountId logicalRequestId db with e | ⟨r', _ | u⟩
  · simp only [run, hread]
  · simp only [run, hread]
  · simp only [run, hread]
    simp only [read, seq_eq_ok, exists_unit_ok, orStop_eq_ok, h,
      Except.ok.injEq, Option.some.injEq, Prod.mk.injEq] at hread
    obtain ⟨hpre, r', rfl, plan, hplan, rfl, rfl⟩ := hread
    rw [write_of_mem hid, (plan_effect now hpre hplan).1, if_neg hstate]

/-- An operation on a request without a reservation changes nothing. -/
lemma run_of_none (h : db.reservationForRequest accountId logicalRequestId = none) :
    (op.run accountId logicalRequestId now db).2 = db := by
  have hread : ∀ r plan, op.read accountId logicalRequestId db ≠ .ok (r, plan) := by
    intro r plan hread
    simp only [read, seq_eq_ok, exists_unit_ok, orStop_eq_ok, h] at hread
    obtain ⟨-, r', hr', -⟩ := hread
    cases hr'
  unfold run
  split
  · rfl
  · rfl
  · exact absurd (by assumption) (hread _ _)

/-- After an operation, the reservation of its request is the one `apply` leaves. -/
lemma reservationForRequest_run (h : db.reservationForRequest accountId logicalRequestId = some r) :
    (op.run accountId logicalRequestId now db).2.reservationForRequest accountId
      logicalRequestId = some ((op.apply now r).toOption.getD r) := by
  have hwrote : Wrote now db r ((op.apply now r).toOption.getD r)
      (op.run accountId logicalRequestId now db).2 := (run_eq_apply h).2
  generalize (op.apply now r).toOption.getD r = r', (op.run accountId logicalRequestId now db).2 =
    db' at hwrote
  cases hwrote with
  | nothing => exact h
  | row =>
    rw [RiskDb.reservationForRequest_setReservation, h, Option.map_some, if_pos rfl]

end ReservationOp

end VoxTrader.Risk
