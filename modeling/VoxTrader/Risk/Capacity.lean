import VoxTrader.Risk.Lifecycle

/-!
# Capacity is never oversubscribed

Capacity is checked only when an approval is persisted. That this is enough rests on how the
operations move a reservation: none makes a reservation hold capacity that did not, and none
raises the quantity it holds, so that both totals only ever grow through the check.

## Main definitions

* `reservedLots`, `reservedNotional` — the two totals.
* `StoreCall` — a call of a client of the store, one transaction or one operation.
* `runCalls` — any number of calls, in the order the store served them.

## Main results

* `Effect.lowers` — an operation lowers both totals.
* `enforceCapacity_eq_ok` — what the capacity check ensures.
* `capacity_never_oversubscribed` — the totals stay within capacity.
-/

namespace VoxTrader.Risk

/-! ## The totals -/

/-- The absolute lots held on an instrument of an account. -/
def reservedLots (accountId instrumentId : String) (db : RiskDb) : ℕ :=
  Rows.total
    (fun r => r.accountId = accountId && r.instrumentId = instrumentId && r.state.holdsCapacity)
    (fun r => r.remainingDeltaLots.unsignedAbs) db.reservations

/-- The absolute notional held on an account. -/
def reservedNotional (accountId : String) (db : RiskDb) : ℕ :=
  Rows.total (fun r => r.accountId = accountId && r.state.holdsCapacity)
    (fun r => r.reservedNotionalNanos.unsignedAbs) db.reservations

/-- No total is above its limit. -/
def WithinCapacity (capacity : ReservationCapacity) (db : RiskDb) : Prop :=
  (∀ limit ∈ capacity.maxInstrumentReservedAbsLots, 0 ≤ limit.val → ∀ accountId instrumentId,
      (reservedLots accountId instrumentId db : ℤ) ≤ limit.val) ∧
    (∀ limit ∈ capacity.maxAccountReservedNotionalNanos, 0 ≤ limit.val → ∀ accountId,
      (reservedNotional accountId db : ℤ) ≤ limit.val)

variable {capacity : ReservationCapacity} {db db' : RiskDb} {r : RiskReservation}

/-- Lower totals are within capacity. -/
lemma WithinCapacity.mono (hlots : ∀ accountId instrumentId,
      reservedLots accountId instrumentId db' ≤ reservedLots accountId instrumentId db)
    (hnotional : ∀ accountId, reservedNotional accountId db' ≤ reservedNotional accountId db)
    (h : WithinCapacity capacity db) : WithinCapacity capacity db' := by
  refine ⟨fun limit hlimit hnonneg accountId instrumentId => ?_,
    fun limit hlimit hnonneg accountId => ?_⟩
  · have hle := h.1 limit hlimit hnonneg accountId instrumentId
    have := hlots accountId instrumentId
    omega
  · have hle := h.2 limit hlimit hnonneg accountId
    have := hnotional accountId
    omega

/-! ## Operations -/

/-- An operation does not make a reservation hold capacity, nor hold more. -/
lemma Effect.lowers {op : ReservationOp} {now : I64} {r' : RiskReservation} (h : Effect op now r r')
    (hholds : r'.state.holdsCapacity = true) : r.state.holdsCapacity = true ∧
      r'.remainingDeltaLots.unsignedAbs ≤ r.remainingDeltaLots.unsignedAbs := by
  refine ⟨?_, h.progress.le⟩
  -- a terminal reservation is left alone, so it would not hold capacity afterwards either
  by_contra hterminal
  have hsame : r' = r := by
    rcases hs : r.state with _ | _ | _ | _ | _ | _ <;>
      simp [hs, ReservationState.holdsCapacity] at hterminal
    · exact h.progress.consumed hs
    · exact h.progress.released hs
  rw [hsame] at hholds
  exact hterminal hholds

/-- An operation lowers the totals. -/
lemma totals_run_le (op : ReservationOp) (accountId logicalId : String) (now : I64) (db : RiskDb) :
    (∀ account instrument, reservedLots account instrument
        (op.run accountId logicalId now db).2 ≤ reservedLots account instrument db) ∧
      ∀ account, reservedNotional account (op.run accountId logicalId now db).2 ≤
        reservedNotional account db := by
  rcases hrow : db.reservationForRequest accountId logicalId with _ | r
  · rw [ReservationOp.run_of_none hrow]
    exact ⟨fun _ _ => le_refl _, fun _ => le_refl _⟩
  · have hmem := (RiskDb.reservationForRequest_eq_some.mp hrow).1
    have hwrote : ReservationOp.Wrote now db r ((op.apply now r).toOption.getD r)
      (op.run accountId logicalId now db).2 := (ReservationOp.run_eq_apply hrow).2
    have heffect : Effect op now r ((op.apply now r).toOption.getD r) := by
      rcases happly : op.apply now r with e | r'
      · exact .unchanged
      · exact ReservationOp.apply_effect happly
    generalize (op.apply now r).toOption.getD r = r' at hwrote heffect
    generalize (op.run accountId logicalId now db).2 = db' at hwrote
    cases hwrote with
    | nothing => exact ⟨fun _ _ => le_refl _, fun _ => le_refl _⟩
    | row =>
      -- the one row with this id is the reservation that was read
      have hrow' : ∀ s ∈ db.reservations, s.reservationId = r.reservationId → s = r :=
        fun s hs hid => db.reservationIds.eq_of_key_eq hs hmem hid
      refine ⟨fun account instrument => Rows.total_update_le ?_,
        fun account => Rows.total_update_le ?_⟩
      · intro s hs hid hcounted
        obtain rfl := hrow' s hs hid
        simp only [Bool.and_eq_true, decide_eq_true_eq] at hcounted ⊢
        obtain ⟨hholds, hle⟩ := heffect.lowers hcounted.2
        exact ⟨⟨hcounted.1, hholds⟩, hle⟩
      · intro s hs hid hcounted
        obtain rfl := hrow' s hs hid
        simp only [Bool.and_eq_true, decide_eq_true_eq] at hcounted ⊢
        exact ⟨⟨hcounted.1, (heffect.lowers hcounted.2).1⟩, le_refl _⟩

/-! ## Approvals -/

/-- A limit check that passes keeps what is held and what is requested within the limit. -/
lemma enforceLimit_eq_ok {w : ℕ} {limit : FixedInt w} {held : List (FixedInt w)}
    {requested : FixedInt w} (h : RiskDb.enforceLimit (some limit) held requested = .ok ()) :
    (((held.map FixedInt.unsignedAbs).sum + requested.unsignedAbs : ℕ) : ℤ) ≤ limit.val := by
  simp only [RiskDb.enforceLimit, Except.seq_eq_ok, Except.orStop_eq_ok,
    FixedInt.checkedAbs_eq_some, FixedInt.checkedAdd_eq_some, Except.stopIf_eq_ok, not_lt] at h
  obtain ⟨active, hactive, requestedAbs, hrequested, projected, hprojected, hle⟩ := h
  have hsum := FixedInt.checkedAbsSum_eq_some hactive
  rw [Nat.cast_add, ← hsum]
  unfold FixedInt.unsignedAbs
  omega

/-- The share a reservation takes of its own account and instrument when it is added. -/
lemma enforceCapacity_eq_ok (h : db.enforceCapacity r capacity = .ok ()) :
    (∀ limit ∈ capacity.maxInstrumentReservedAbsLots,
        ((reservedLots r.accountId r.instrumentId db + r.remainingDeltaLots.unsignedAbs : ℕ) : ℤ) ≤
          limit.val) ∧
      (∀ limit ∈ capacity.maxAccountReservedNotionalNanos,
        ((reservedNotional r.accountId db + r.reservedNotionalNanos.unsignedAbs : ℕ) : ℤ) ≤
          limit.val) := by
  simp only [RiskDb.enforceCapacity, Except.seq_eq_ok, Except.exists_unit_ok] at h
  refine ⟨fun limit hlimit => ?_, fun limit hlimit => ?_⟩
  · have hle := h.1
    rw [Option.mem_def.mp hlimit] at hle
    have hle := enforceLimit_eq_ok hle
    rw [List.map_map] at hle
    exact hle
  · have hle := h.2
    rw [Option.mem_def.mp hlimit] at hle
    have hle := enforceLimit_eq_ok hle
    rw [List.map_map] at hle
    exact hle

/-- A reservation that passed the capacity check may be added. -/
lemma WithinCapacity.append (h : WithinCapacity capacity db)
    (hfit : db.enforceCapacity r capacity = .ok ())
    (hrows : db'.reservations = db.reservations ++ [r]) : WithinCapacity capacity db' := by
  obtain ⟨hlots, hnotional⟩ := enforceCapacity_eq_ok hfit
  refine ⟨fun limit hlimit hnonneg accountId instrumentId => ?_,
    fun limit hlimit hnonneg accountId => ?_⟩
  · have hle := h.1 limit hlimit hnonneg accountId instrumentId
    have hfits := hlots limit hlimit
    rw [reservedLots, hrows, Rows.total_append]
    split_ifs with hcounted
    · simp only [Bool.and_eq_true, decide_eq_true_eq] at hcounted
      obtain ⟨⟨rfl, rfl⟩, -⟩ := hcounted
      exact hfits
    · simpa [reservedLots] using hle
  · have hle := h.2 limit hlimit hnonneg accountId
    have hfits := hnotional limit hlimit
    rw [reservedNotional, hrows, Rows.total_append]
    split_ifs with hcounted
    · simp only [Bool.and_eq_true, decide_eq_true_eq] at hcounted
      obtain ⟨rfl, -⟩ := hcounted
      exact hfits
    · simpa [reservedNotional] using hle

/-! ## Runs -/

/-- A call of a client: an approval to persist, which is one transaction, or an operation of the
reconciler whose read and write have no other writer between them. -/
inductive StoreCall
  | persist (decision : RiskDecision) (reservation : RiskReservation)
  | reconcile (op : ReservationOp) (accountId logicalRequestId : String) (now : I64)

/-- The store after a call; a transaction that fails is rolled back. -/
def StoreCall.exec (capacity : ReservationCapacity) (db : RiskDb) : StoreCall → RiskDb
  | .persist decision reservation =>
    match db.persistApprovalAtomic decision reservation capacity with
    | .ok (_, db') => db'
    | .error _ => db
  | .reconcile op accountId logicalRequestId now =>
    (op.run accountId logicalRequestId now db).2

/-- The store after calls of any number of clients, in the order it served them. -/
def runCalls (capacity : ReservationCapacity) (db : RiskDb) (calls : List StoreCall) : RiskDb :=
  calls.foldl (StoreCall.exec capacity) db

/-- A call keeps the totals within capacity. -/
lemma WithinCapacity.exec (call : StoreCall) (h : WithinCapacity capacity db) :
    WithinCapacity capacity (call.exec capacity db) := by
  cases call with
  | persist decision reservation =>
    rcases hpersist : db.persistApprovalAtomic decision reservation capacity
      with e | ⟨approval, db'⟩
    · simpa only [StoreCall.exec, hpersist] using h
    · simp only [StoreCall.exec, hpersist]
      obtain ⟨-, -, ⟨-, -, rfl⟩ | ⟨-, hfit, -, hrows, -⟩⟩ :=
        RiskDb.persistApprovalAtomic_cases hpersist
      · exact h
      · exact h.append hfit hrows
  | reconcile op accountId logicalRequestId now =>
    obtain ⟨hlots, hnotional⟩ := totals_run_le op accountId logicalRequestId now db
    exact h.mono hlots hnotional

/-- A capacity with a negative limit persists nothing. -/
lemma exec_of_invalidCapacity {e : RiskStoreError}
    (hinvalid : RiskDb.validateCapacity capacity = .error e) (call : StoreCall)
    (h : db.reservations = []) : (call.exec capacity db).reservations = [] := by
  cases call with
  | persist decision reservation =>
    rcases hpersist : db.persistApprovalAtomic decision reservation capacity
      with e | ⟨approval, db'⟩
    · simpa only [StoreCall.exec, hpersist] using h
    · have hvalid := (RiskDb.persistApprovalAtomic_cases hpersist).2.1
      cases hinvalid.symm.trans hvalid
  | reconcile op accountId logicalRequestId now =>
    have hnone : db.reservationForRequest accountId logicalRequestId = none := by
      rw [RiskDb.reservationForRequest, h]
      rfl
    show (op.run accountId logicalRequestId now db).2.reservations = []
    rw [ReservationOp.run_of_none hnone, h]

/-- **Capacity is never oversubscribed.** From an empty store, after any calls under one capacity,
the lots held on each instrument of an account and the notional held on each account are within
the limits. A capacity with a negative limit, which the store refuses, holds nothing at all.

The reservations may be persisted in any state and with any quantity.

**Proof sketch.** By induction on the calls. An approval is appended only after the check, at
which both totals include it (`WithinCapacity.append`); an operation only lowers the totals
(`totals_run_le`). -/
theorem capacity_never_oversubscribed (capacity : ReservationCapacity) (calls : List StoreCall) :
    WithinCapacity capacity (runCalls capacity .empty calls) ∧
      ∀ e, RiskDb.validateCapacity capacity = .error e →
        (runCalls capacity .empty calls).reservations = [] := by
  constructor
  · have hrun : ∀ (calls : List StoreCall) (db : RiskDb), WithinCapacity capacity db →
        WithinCapacity capacity (runCalls capacity db calls) := by
      intro calls
      induction calls with
      | nil => exact fun _ h => h
      | cons call calls ih => exact fun db h => ih _ (h.exec call)
    refine hrun calls .empty ⟨fun _ _ hnonneg _ _ => ?_, fun _ _ hnonneg _ => ?_⟩
    all_goals exact hnonneg
  · intro e he
    have hrun : ∀ (calls : List StoreCall) (db : RiskDb), db.reservations = [] →
        (runCalls capacity db calls).reservations = [] := by
      intro calls
      induction calls with
      | nil => exact fun _ h => h
      | cons call calls ih => exact fun db h => ih _ (exec_of_invalidCapacity he call h)
    exact hrun calls .empty rfl

/-- Two approvals of six lots under a limit of ten: only the first is persisted. -/
example :
    let capacity : ReservationCapacity := ⟨none, some (.lit 10)⟩
    let decision (request : String) : RiskDecision :=
      ⟨request, request, 1, "account-1", .directionalOrder, .lit 6, .lit 6, .approve, [],
        some request, none, ⟨1, 1, 1, 1, none, 1, 1, 1⟩⟩
    let reservation (request : String) : RiskReservation :=
      { fixtureReservation with
        reservationId := request
        logicalRequestId := request
        reservedDeltaLots := .lit 6
        remainingDeltaLots := .lit 6 }
    reservedLots "account-1" "instrument-1" (runCalls capacity .empty
      [.persist (decision "a") (reservation "a"), .persist (decision "b") (reservation "b")]) =
        6 := by
  decide

end VoxTrader.Risk
