import VoxTrader.Risk.Reservation

/-!
# The life of a reservation

What holds of a reservation at every point of every sequence of operations on it. The invariant
ties the quantity to the state: none is left exactly in the two terminal states, and what is left
has the sign of what was reserved and is no more.

## Main definitions

* `runOps` — a sequence of operations on the reservation of one request.
* `Sound` — the invariant of a reservation.
* `Progress` — what two points of one life have to do with each other.

## Main results

* `Effect.sound`, `Effect.progress` — one operation.
* `runOps_progress` — a whole sequence.
* `reservation_lifecycle` — the life of a reservation that was inserted active.
-/

namespace VoxTrader.Risk

/-- Run a sequence of operations, each with its own time, on the reservation of a request. -/
def runOps (accountId logicalRequestId : String) (db : RiskDb)
    (ops : List (ReservationOp × I64)) : RiskDb :=
  ops.foldl (fun db o => (o.1.run accountId logicalRequestId o.2 db).2) db

/-- The quantity of a reservation agrees with its state and with what was reserved. -/
structure Sound (reserved : I64) (r : RiskReservation) : Prop where
  sign : r.remainingDeltaLots = 0 ∨ r.remainingDeltaLots.signum = reserved.signum
  le : r.remainingDeltaLots.val.natAbs ≤ reserved.val.natAbs
  zero_iff : r.remainingDeltaLots = 0 ↔ r.state = .consumed ∨ r.state = .released

/-- The operations that settle a reservation that is held: fills, runtime reports and the two
releases on the broker's word. -/
def ReservationOp.settles : ReservationOp → Bool
  | .authoritativeFill _ | .runtimeReconciliation _ | .brokerAuthoritativeNoRemainingExposure
  | .brokerAuthoritativeReject => true
  | _ => false

/-- A reservation `r'` that came after `r`, with the operations `ops` in between: the quantity
has not grown, a terminal state was not left, and a held quantity was kept unless an operation
settled it. -/
structure Progress (ops : List ReservationOp) (r r' : RiskReservation) : Prop where
  le : r'.remainingDeltaLots.val.natAbs ≤ r.remainingDeltaLots.val.natAbs
  consumed : r.state = .consumed → r' = r
  released : r.state = .released → r' = r
  held : r.state = .unknownHeld ∨ r.state = .orphaned → (∀ op ∈ ops, op.settles = false) → r' = r

/-- Nothing happened. -/
lemma Progress.refl (r : RiskReservation) : Progress [] r r :=
  ⟨le_refl _, fun _ => rfl, fun _ => rfl, fun _ _ => rfl⟩

variable {r r' : RiskReservation} {op : ReservationOp} {now reserved : I64}
  {accountId logicalRequestId : String}

/-- Two stretches of one life make one. -/
lemma Progress.trans {ops ops' : List ReservationOp} {r'' : RiskReservation} (h : Progress ops r r')
    (h' : Progress ops' r' r'') : Progress (ops ++ ops') r r'' where
  le := h'.le.trans h.le
  consumed hs := by
    have heq := h.consumed hs
    exact (h'.consumed (heq ▸ hs)).trans heq
  released hs := by
    have heq := h.released hs
    exact (h'.released (heq ▸ hs)).trans heq
  held hs hops := by
    have heq := h.held hs fun op hop => hops op (List.mem_append_left _ hop)
    exact (h'.held (heq ▸ hs) fun op hop => hops op (List.mem_append_right _ hop)).trans heq

/-! ## One operation -/

/-- The state after bringing the quantity down is terminal iff nothing is left. -/
lemma consumedState_terminal (q : I64) :
    q = 0 ↔ consumedState q = .consumed ∨ consumedState q = .released := by
  unfold consumedState
  by_cases h : q = 0 <;> simp [h]

/-- An operation keeps the reservation sound. -/
lemma Effect.sound (heffect : Effect op now r r') (h : Sound reserved r) : Sound reserved r' := by
  cases heffect with
  | unchanged => exact h
  | released _ =>
    exact ⟨.inl rfl, Nat.zero_le _, ⟨fun _ => .inr rfl, fun _ => rfl⟩⟩
  | held target htarget hstate =>
    -- the reservation was active, so it has some quantity, and it keeps it
    have hne : r.remainingDeltaLots ≠ 0 := by
      rw [ne_eq, h.zero_iff]
      rintro (hs | hs) <;> rw [hs] at hstate <;> simp at hstate
    refine ⟨h.sign, h.le, ⟨fun hzero => absurd hzero hne, ?_⟩⟩
    intro hs
    cases op <;> simp only [ReservationOp.holdState, Option.mem_def, reduceCtorEq,
      Option.some.injEq] at htarget <;> subst htarget <;> simp [RiskDb.moved] at hs
  | consumed q _ _ hfits hne =>
    refine ⟨?_, hfits.2.trans h.le, consumedState_terminal q⟩
    rcases hfits.1 with hzero | hsign
    · exact .inl hzero
    · exact .inr (hsign.trans (h.sign.resolve_left hne))

/-- An operation lets a reservation progress. -/
lemma Effect.progress (heffect : Effect op now r r') : Progress [op] r r' := by
  cases heffect with
  | unchanged => exact ⟨le_refl _, fun _ => rfl, fun _ => rfl, fun _ _ => rfl⟩
  | released h =>
    refine ⟨Nat.zero_le _, ?_, ?_, ?_⟩
    · intro hs
      rw [hs] at h
      cases op <;> simp [ReservationOp.releasable] at h
    · intro hs
      rw [hs] at h
      cases op <;> simp [ReservationOp.releasable] at h
    · intro hs hops
      have hop := hops op (List.mem_singleton.mpr rfl)
      rcases hs with hs | hs <;> rw [hs] at h <;>
        cases op <;> simp [ReservationOp.releasable, ReservationOp.settles] at h hop
  | held target _ h =>
    refine ⟨le_refl _, ?_, ?_, ?_⟩
    · intro hs
      rw [hs] at h
      simp at h
    · intro hs
      rw [hs] at h
      simp at h
    · rintro (hs | hs) _ <;> rw [hs] at h <;> simp at h
  | consumed q hop h hfits _ =>
    refine ⟨hfits.2, ?_, ?_, ?_⟩
    · intro hs
      rw [hs] at h
      simp [liveStates] at h
    · intro hs
      rw [hs] at h
      simp [liveStates] at h
    · intro _ hops
      have hsettles := hops op (List.mem_singleton.mpr rfl)
      cases op <;> simp [ReservationOp.consumes, ReservationOp.settles] at hop hsettles

/-- One operation in the store: the reservation stays, is sound and progresses, and an error
leaves it alone. -/
lemma run_progress (op : ReservationOp) (now : I64) {db : RiskDb}
    (hrow : db.reservationForRequest accountId logicalRequestId = some r) (h : Sound reserved r) :
    ∃ r', (op.run accountId logicalRequestId now db).2.reservationForRequest accountId
        logicalRequestId = some r' ∧ Sound reserved r' ∧ Progress [op] r r' ∧
      ∀ e, (op.run accountId logicalRequestId now db).1 = .error e → r' = r := by
  refine ⟨_, ReservationOp.reservationForRequest_run hrow, ?_⟩
  have hresult : (op.run accountId logicalRequestId now db).1 = op.apply now r :=
    (ReservationOp.run_eq_apply hrow).1
  rw [hresult]
  rcases happly : op.apply now r with e | r'
  · exact ⟨h, (Effect.unchanged : Effect op now r r).progress, fun _ _ => rfl⟩
  · have heffect := ReservationOp.apply_effect happly
    exact ⟨heffect.sound h, heffect.progress, nofun⟩

/-! ## A sequence of operations -/

/-- **A whole sequence.** By induction on the sequence, one operation at a time. -/
lemma runOps_progress (ops : List (ReservationOp × I64)) : ∀ {db : RiskDb} {r : RiskReservation},
      db.reservationForRequest accountId logicalRequestId = some r → Sound reserved r →
      ∃ r', (runOps accountId logicalRequestId db ops).reservationForRequest accountId
          logicalRequestId = some r' ∧ Sound reserved r' ∧ Progress (ops.map Prod.fst) r r' := by
  induction ops with
  | nil =>
    intro db r hrow h
    exact ⟨r, hrow, h, Progress.refl r⟩
  | cons o ops ih =>
    intro db r hrow h
    obtain ⟨r₁, hrow₁, h₁, hprogress₁, -⟩ := run_progress o.1 o.2 hrow h
    obtain ⟨r₂, hrow₂, h₂, hprogress₂⟩ := ih hrow₁ h₁
    exact ⟨r₂, hrow₂, h₂, hprogress₁.trans hprogress₂⟩

/-- **The life of a reservation.** From any store with a reservation that is active with all of
what it reserved, after every sequence `before` of operations and every further sequence `after`:
the quantity is none or has the reserved sign, and is at most what was reserved; none is left
exactly when the state is consumed or released; the quantity never grows; consumed and released
are never left; a held quantity stays until an operation settles it; and an operation that fails
leaves the reservation as it is. -/
theorem reservation_lifecycle (db : RiskDb) (accountId logicalRequestId : String)
    (r₀ : RiskReservation) (hrow : db.reservationForRequest accountId logicalRequestId = some r₀)
    (hactive : r₀.state = .active) (hremaining : r₀.remainingDeltaLots = r₀.reservedDeltaLots)
    (hne : r₀.reservedDeltaLots ≠ 0) (before after : List (ReservationOp × I64)) :
    ∃ r r', (runOps accountId logicalRequestId db before).reservationForRequest accountId
        logicalRequestId = some r ∧
      (runOps accountId logicalRequestId db (before ++ after)).reservationForRequest accountId
        logicalRequestId = some r' ∧
      (r.remainingDeltaLots = 0 ∨ r.remainingDeltaLots.signum = r₀.reservedDeltaLots.signum) ∧
      r.remainingDeltaLots.val.natAbs ≤ r₀.reservedDeltaLots.val.natAbs ∧
      (r.remainingDeltaLots = 0 ↔ r.state = .consumed ∨ r.state = .released) ∧
      r'.remainingDeltaLots.val.natAbs ≤ r.remainingDeltaLots.val.natAbs ∧
      (r.state = .consumed → r'.state = .consumed) ∧
      (r.state = .released → r'.state = .released) ∧
      (r.state = .unknownHeld ∨ r.state = .orphaned → (∀ o ∈ after, o.1.settles = false) →
        r'.remainingDeltaLots = r.remainingDeltaLots) ∧
      (∀ op now e, (ReservationOp.run op accountId logicalRequestId now
          (runOps accountId logicalRequestId db before)).1 = .error e →
        (ReservationOp.run op accountId logicalRequestId now
          (runOps accountId logicalRequestId db before)).2.reservationForRequest accountId
            logicalRequestId = some r) := by
  have hsound : Sound r₀.reservedDeltaLots r₀ := by
    refine ⟨.inr (by rw [hremaining]), by rw [hremaining], ?_⟩
    rw [hremaining, hactive]
    simp [hne]
  obtain ⟨r, hrow₁, h₁, -⟩ := runOps_progress before hrow hsound
  obtain ⟨r', hrow₂, -, hprogress⟩ := runOps_progress after hrow₁ h₁
  refine ⟨r, r', hrow₁, ?_, h₁.sign, h₁.le, h₁.zero_iff, hprogress.le, ?_, ?_, ?_, ?_⟩
  · rw [runOps, List.foldl_append]
    exact hrow₂
  · intro hs
    rw [hprogress.consumed hs, hs]
  · intro hs
    rw [hprogress.released hs, hs]
  · intro hs hops
    rw [hprogress.held hs]
    intro op hop
    obtain ⟨o, ho, rfl⟩ := List.mem_map.mp hop
    exact hops o ho
  · intro op now e he
    obtain ⟨r'', hrow₃, -, -, herror⟩ := run_progress op now hrow₁ h₁
    rw [hrow₃, herror e he]

/-- The reservation the reconciler's tests start from. -/
def fixtureReservation : RiskReservation where
  reservationId := "risk-reservation:1"
  accountId := "account-1"
  instrumentId := "instrument-1"
  strategyId := none
  source := .manual
  logicalRequestId := "request-1"
  reservedDeltaLots := .lit 10
  remainingDeltaLots := .lit 10
  reservedNotionalNanos := .lit 1000
  state := .active
  createdAtUnixMs := .lit 1
  updatedAtUnixMs := .lit 1
  expiresAtUnixMs := none

/-- A store that holds one reservation. -/
def RiskDb.single (r : RiskReservation) : RiskDb where
  __ := RiskDb.empty
  reservations := [r]
  reservationIds := List.nodup_singleton _
  reservationRequests := List.nodup_singleton _

/-- A reservation of ten lots with four filled, held and then released. -/
theorem filled_held_released_lifecycle :
    ∃ r r', (runOps "account-1" "request-1" (RiskDb.single fixtureReservation)
        [(.authoritativeFill (.lit 4), .lit 2)]).reservationForRequest "account-1" "request-1" =
          some r ∧
      (runOps "account-1" "request-1" (RiskDb.single fixtureReservation)
        [(.authoritativeFill (.lit 4), .lit 2), (.unknownAfterDispatch, .lit 3),
          (.brokerAuthoritativeReject, .lit 4)]).reservationForRequest "account-1" "request-1" =
          some r' ∧
      r.remainingDeltaLots = .lit 6 ∧ r'.state = .released ∧
      r'.remainingDeltaLots.val.natAbs ≤ r.remainingDeltaLots.val.natAbs := by
  obtain ⟨r, r', hr, hr', -, -, -, hle, -⟩ := reservation_lifecycle
    (RiskDb.single fixtureReservation) "account-1" "request-1" fixtureReservation rfl rfl rfl
    (by decide) [(.authoritativeFill (.lit 4), .lit 2)]
    [(.unknownAfterDispatch, .lit 3), (.brokerAuthoritativeReject, .lit 4)]
  refine ⟨r, r', hr, hr', ?_, ?_, hle⟩
  · cases hr
    rfl
  · cases hr'
    rfl

end VoxTrader.Risk
