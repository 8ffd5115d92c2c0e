import VoxTrader.Core.RiskReconcile
import VoxTrader.Risk.ApprovalBounds
import VoxTrader.Risk.Lifecycle

/-!
# The position a request starts from

The base position of a request adds up the position and the open orders of the last report and
the lots the risk store has reserved. An order the system has placed itself is in two of the
three: the report lists it, and its reservation, which the reconciliation brings to the same
lots, still holds capacity. `own_order_counted_twice` shows the effect.

Two things are left out: the order a request replaces, and, for a command that only cleans up,
the position itself. The sum counts everything once exactly when the reservations with an order
in the report make up for these.

## Main definitions

* `countedOnce` — position, orders, and the reservations no order of the report belongs to.
* `matchedLots` — what the base position counts in addition.
* `replacedLots`, `unreadLots` — what it leaves out.
* `reportedLots` — the lots a reservation with an order in the report is left with.

## Main results

* `own_order_counted_twice` — an open order of ten lots makes a base position of twenty.
* `base_counts_once_iff` — when the base position is right.
-/

namespace VoxTrader.Core

open VoxTrader.Runtime VoxTrader.Risk

/-! ## What should be counted -/

/-- The signed remaining lots of an order; an order without a direction has none. -/
def orderLots (order : OrderFact) : ℤ :=
  match order.signedRemainingLots with
  | .ok lots => lots.val
  | .error _ => 0

/-- The position in units. -/
def positionUnits (report : ReconciliationReport) (instrumentId : String) : ℤ :=
  Rows.total (fun position : PositionFact => decide (position.instrumentUid = instrumentId))
    (fun position => position.quantityUnits.val) report.positions

/-- The position in lots. -/
def positionLots (report : ReconciliationReport) (instrumentId : String) (lotSize : I64) : ℤ :=
  (positionUnits report instrumentId).tdiv lotSize.val

/-- The reservation holds capacity of an instrument. -/
def holdsOn (accountId instrumentId : String) (r : RiskReservation) : Bool :=
  r.accountId = accountId && r.instrumentId = instrumentId && r.state.holdsCapacity

/-- Some order of the report was placed for the reservation's request. -/
def hasMatchingOrder (report : ReconciliationReport) (r : RiskReservation) : Bool :=
  (matchingOrder report r.logicalRequestId).isSome

/-- Every live order counted once: the position, each active order of the instrument, and each
reservation that no active order was placed for. -/
def countedOnce (accountId : String) (report : ReconciliationReport) (db : RiskDb)
    (instrumentId : String) (lotSize : I64) : ℤ :=
  positionLots report instrumentId lotSize +
    Rows.total (fun order => decide (order.instrumentUid = instrumentId)) orderLots
      report.activeOrders +
    Rows.total (fun r => holdsOn accountId instrumentId r && !hasMatchingOrder report r)
      (fun r => r.remainingDeltaLots.val) db.reservations

/-! ## What is counted otherwise -/

/-- The order a command replaces. -/
def replaces : RuntimeExecutionCommand → Option String
  | .replaceOrder order => some order.existingOrderId
  | _ => none

/-- The lots of the orders a command replaces, on an instrument. -/
def replacedLots (report : ReconciliationReport) (command : RuntimeExecutionCommand)
    (instrumentId : String) : ℤ :=
  Rows.total (fun order => decide (order.instrumentUid = instrumentId) &&
    (replaces command).any (goesBy order)) orderLots report.activeOrders

/-- The lots reserved for requests whose order the report lists. -/
def matchedLots (accountId : String) (report : ReconciliationReport) (db : RiskDb)
    (instrumentId : String) : ℤ :=
  Rows.total (fun r => holdsOn accountId instrumentId r && hasMatchingOrder report r)
    (fun r => r.remainingDeltaLots.val) db.reservations

/-- The position a command leaves unread: the lots of the instrument, unless the command is
directional. -/
def unreadLots (report : ReconciliationReport) (action : RiskActionKind) (instrumentId : String)
    (lotSize : I64) : ℤ :=
  if action.directional then 0 else positionLots report instrumentId lotSize

/-- The lots a reservation is left with: its own while its request is unresolved, and otherwise
those of the order that was placed for it. -/
def reportedLots (report : ReconciliationReport) (r : RiskReservation) : ℤ :=
  if r.logicalRequestId ∈ report.unresolvedLogicalRequestIds then r.remainingDeltaLots.val
  else ((matchingOrder report r.logicalRequestId).map orderLots).getD 0

/-! ## The three figures of a request -/

variable {report : ReconciliationReport} {instrumentId : String} {description : CommandDescription}
  {lots : I64}

/-- The units of a position that were added up. -/
lemma currentUnits_eq_ok {units : I64} (h : currentUnits report instrumentId = .ok units) :
    units.val = positionUnits report instrumentId := by
  rw [currentUnits, Except.orStop_eq_ok] at h
  rw [FixedInt.checkedSum_eq_some h, List.map_map]
  rfl

/-- Remaining lots that were added up. -/
lemma addRemainingLots_eq_ok {orders : List OrderFact} :
    ∀ {total result : I64}, addRemainingLots total orders = .ok result →
      result.val = total.val + (orders.map orderLots).sum := by
  induction orders with
  | nil =>
    intro total result h
    rw [← Except.ok.inj h]
    simp
  | cons order orders ih =>
    intro total result h
    simp only [addRemainingLots, Except.seq_eq_ok, Except.mapError_eq_ok, Except.orStop_eq_ok,
      FixedInt.checkedAdd_eq_some] at h
    obtain ⟨remaining, hremaining, next, hnext, h⟩ := h
    have hlots : orderLots order = remaining.val := by simp only [orderLots, hremaining]
    rw [ih h, List.map_cons, List.sum_cons, hlots]
    omega

/-- A description says which order is replaced. -/
lemma commandDescription_replaces {command : RuntimeExecutionCommand}
    (h : commandDescription command report = .ok description) :
    description.replacedOrderId = replaces command := by
  cases command <;>
    simp only [commandDescription, Except.seq_eq_ok, Except.ok.injEq] at h
  case replaceOrder order =>
    obtain ⟨_, -, _, -, _, -, h⟩ := h
    rw [← h]
    rfl
  case regularOrder | postOrderAsync =>
    obtain ⟨_, -, h⟩ := h
    rw [← h]
    rfl
  all_goals
    rw [← h]
    rfl

/-- The open orders that were added up: all of the instrument but those that are replaced. -/
lemma openOrderDelta_eq_ok {replacedOrderId : Option String}
    (h : openOrderDelta report instrumentId replacedOrderId = .ok lots) :
    lots.val = Rows.total (fun order => decide (order.instrumentUid = instrumentId) &&
      !replacedOrderId.any (goesBy order)) orderLots report.activeOrders := by
  rw [addRemainingLots_eq_ok h, FixedInt.val_zero, zero_add, standingOrders, List.filter_filter]
  congr 3
  funext order
  cases replacedOrderId <;> simp [Bool.and_comm]

/-- The reservations that were added up. -/
lemma activeReservedDelta_eq_ok {db : RiskDb} {accountId : String}
    (h : db.activeReservedDelta accountId instrumentId = .ok lots) :
    lots.val = Rows.total (holdsOn accountId instrumentId)
      (fun r => r.remainingDeltaLots.val) db.reservations := by
  rw [RiskDb.activeReservedDelta, Except.orStop_eq_ok] at h
  rw [FixedInt.checkedSum_eq_some h, List.map_map]
  rfl

/-- The position of a request, in lots, unless it was left unread. -/
lemma directionalFacts_eq_ok {answers : BrokerAnswers} {facts : DirectionalFacts} {lotSize : I64}
    (hlot : description.action.directional = true → facts.lotSize = lotSize)
    (h : directionalFacts report description answers = .ok facts) :
    facts.currentPositionLots.val = positionLots report description.instrumentId lotSize -
      unreadLots report description.action description.instrumentId lotSize := by
  by_cases hdirectional : description.action.directional = true
  · rw [← hlot hdirectional, unreadLots, if_pos hdirectional, sub_zero]
    simp only [directionalFacts, hdirectional, if_true, Except.seq_eq_ok, Except.stopIf_eq_ok,
      exists_const, Except.mapError_eq_ok, Except.ok.injEq] at h
    obtain ⟨⟨constraints, revision⟩, -, units, hunits, -, limits, -, rfl⟩ := h
    rw [positionLots, ← currentUnits_eq_ok hunits]
    rfl
  · rw [unreadLots, if_neg hdirectional, sub_self]
    rw [directionalFacts, if_neg hdirectional] at h
    rw [← Except.ok.inj h]
    rfl

/-! ## When the base position is right -/

section

variable {adapter : RiskAdapter} {purpose : RuntimeExecutionPurpose}
  {command : RuntimeExecutionCommand} {logicalRequestId : String} {policy : RiskPolicySet}
  {report : ReconciliationReport} {answers : BrokerAnswers}
  {unresolved : Except StoreError (List MutationRecord)} {db : RiskDb} {request : RiskRequest}
  {base lotSize : I64}

/-- **The base position of a request**, from the last report and any table of reservations:
everything counted once, the matched reservations counted again, and the replaced orders and an
unread position left out. -/
lemma base_eq_countedOnce
    (hbuilt : buildRequest adapter purpose command logicalRequestId policy (some report) answers
      unresolved (db.activeReservedDelta adapter.canonicalAccountId) = .ok request)
    (hlot : request.action.directional = true → request.snapshot.instrumentLotSize = lotSize)
    (hbase : basePosition request.snapshot = .ok base) :
    base.val = countedOnce adapter.canonicalAccountId report db request.instrumentId lotSize +
      matchedLots adapter.canonicalAccountId report db request.instrumentId -
      replacedLots report command request.instrumentId -
      unreadLots report request.action request.instrumentId lotSize := by
  obtain ⟨_, description, hsome, hfrom⟩ := buildRequest_eq_ok hbuilt
  cases hsome
  obtain ⟨facts, hfacts, hposition, hfactsLot⟩ := hfrom.position
  have hposition : request.snapshot.currentPositionLots.val =
      positionLots report request.instrumentId lotSize -
        unreadLots report request.action request.instrumentId lotSize := by
    rw [hposition, hfrom.instrument, hfrom.action]
    refine directionalFacts_eq_ok (fun hdirectional => ?_) hfacts
    rw [← hfactsLot, hlot (hfrom.action ▸ hdirectional)]
  have horders := openOrderDelta_eq_ok hfrom.orders
  rw [commandDescription_replaces hfrom.described] at horders
  have hreserved := activeReservedDelta_eq_ok hfrom.reservations
  have hall := Rows.total_split (fun order : OrderFact => decide (order.instrumentUid =
    description.instrumentId)) (fun order => (replaces command).any (goesBy order)) orderLots
    report.activeOrders
  have hheld := Rows.total_split (holdsOn adapter.canonicalAccountId description.instrumentId)
    (hasMatchingOrder report) (fun r => r.remainingDeltaLots.val) db.reservations
  rw [basePosition_eq_ok hbase, hposition, hfrom.unknown, FixedInt.val_zero]
  rw [hfrom.instrument]
  unfold countedOnce matchedLots replacedLots
  omega

variable {now : I64} {r r' : RiskReservation} {accountId : String}

/-- An operation keeps the request, the account and the instrument of its reservation. -/
lemma apply_keeps {op : ReservationOp} (h : op.apply now r = .ok r') :
    r'.logicalRequestId = r.logicalRequestId ∧
      r'.accountId = r.accountId ∧ r'.instrumentId = r.instrumentId := by
  cases ReservationOp.apply_effect h <;> exact ⟨rfl, rfl, rfl⟩

/-- A reservation whose request is unresolved keeps its lots and still holds capacity. -/
lemma reconciled_of_unresolved (hholds : r.state.holdsCapacity = true)
    (h : ReservationOp.unknownAfterDispatch.apply now r = .ok r') :
    r'.remainingDeltaLots = r.remainingDeltaLots ∧ r'.state.holdsCapacity = true := by
  cases ReservationOp.apply_effect h with
  | unchanged => exact ⟨rfl, hholds⟩
  | released hstate => simp [ReservationOp.releasable] at hstate
  | held target htarget =>
    cases htarget
    exact ⟨rfl, rfl⟩
  | consumed q hop => cases hop

/-- A reservation whose order is in the report has the lots of that order, and holds capacity
unless they are none. -/
lemma reconciled_of_order {lots : I64}
    (h : (ReservationOp.runtimeReconciliation lots).apply now r = .ok r') :
    r'.remainingDeltaLots = lots ∧ (r'.state.holdsCapacity = true ↔ lots ≠ 0) := by
  obtain ⟨-, ⟨hplan, -⟩ | ⟨u, hplan, -, rfl⟩⟩ := ReservationOp.apply_eq_ok.mp h
  · obtain ⟨hu, -⟩ := runtimeReconciliation_eq_ok.mp hplan
    cases hu
  · obtain ⟨hu, -⟩ := runtimeReconciliation_eq_ok.mp hplan
    cases hu
    refine ⟨rfl, ?_⟩
    by_cases hlots : lots = 0 <;>
      simp [RiskDb.moved, consumedState, hlots, ReservationState.holdsCapacity]

/-- **What a reservation counts for after a reconciliation**: nothing if it held no capacity, and
what the report says if its order is in the report. -/
lemma reconciled_counts {instrumentId : String}
    (hok : r.accountId = accountId → r.state.holdsCapacity = true → Reconcilable report r) :
    let r' := if r.accountId = accountId ∧ r.state.holdsCapacity = true then reconciled report r
      else r
    (if holdsOn accountId instrumentId r' && hasMatchingOrder report r' then
        r'.remainingDeltaLots.val else 0) =
      if holdsOn accountId instrumentId r && hasMatchingOrder report r then
        reportedLots report r else 0 := by
  intro r'
  by_cases hin : r.accountId = accountId ∧ r.state.holdsCapacity = true
  swap
  · -- a reservation that holds nothing stays as it is and counts for nothing
    have hr' : r' = r := if_neg hin
    have hnot : holdsOn accountId instrumentId r = false := by
      unfold holdsOn
      by_contra h
      simp only [Bool.not_eq_false, Bool.and_eq_true, decide_eq_true_eq] at h
      exact hin ⟨h.1.1, h.2⟩
    simp [hr', hnot]
  obtain ⟨op, s, hop, happly, hs⟩ := hok hin.1 hin.2
  have hr' : r' = s := (if_pos hin).trans hs
  obtain ⟨hid, haccount, hinstrument⟩ := apply_keeps happly
  have hmatch : hasMatchingOrder report r' = hasMatchingOrder report r := by
    rw [hr', hasMatchingOrder, hasMatchingOrder, hid]
  rw [hmatch]
  by_cases hnone : hasMatchingOrder report r = false
  · simp [hnone]
  obtain ⟨order, horder⟩ := Option.isSome_iff_exists.mp ((Bool.not_eq_false _).mp hnone)
  simp only [reconcileOp, horder] at hop
  by_cases hunresolved : r.logicalRequestId ∈ report.unresolvedLogicalRequestIds
  · rw [if_pos hunresolved] at hop
    cases hop
    obtain ⟨hlots, hholds⟩ := reconciled_of_unresolved hin.2 happly
    simp [holdsOn, reportedLots, hr', hunresolved, hlots, hholds, haccount, hinstrument, hin.2]
  · rw [if_neg hunresolved] at hop
    rcases hsigned : order.signedRemainingLots with e | lots
    · rw [hsigned] at hop
      cases hop
    rw [hsigned] at hop
    cases hop
    obtain ⟨hlots, hholds⟩ := reconciled_of_order happly
    have hreported : reportedLots report r = lots.val := by
      simp [reportedLots, hunresolved, horder, orderLots, hsigned]
    rw [hreported]
    by_cases hzero : lots = 0
    · have hfree : s.state.holdsCapacity = false :=
        Bool.eq_false_iff.mpr fun h => hholds.mp h hzero
      simp [holdsOn, hr', hfree, hzero]
    · simp [holdsOn, hr', hholds.mpr hzero, hlots, haccount, hinstrument, hin.2]

/-- After a reconciliation that succeeds, the matched reservations hold what the report says. -/
lemma matchedLots_reconcile {db' : RiskDb} (instrumentId : String)
    (h : reconcile accountId report db = (.ok (), db')) :
    matchedLots accountId report db' instrumentId =
      Rows.total (fun r => holdsOn accountId instrumentId r && hasMatchingOrder report r)
        (reportedLots report) db.reservations := by
  obtain ⟨hok, htable⟩ := reconcile_reservations h
  rw [matchedLots, htable]
  exact Rows.total_map_congr fun r hr => reconciled_counts (hok r hr)

/-- **The base position counts every live order once iff the matched reservations make up for
the replaced orders and an unread position.** `db` is any table of reservations before the report
was applied. When the reconciliation succeeds, what the matched reservations hold is read off the
report.

**Proof sketch.** The base position is the sum of position, standing orders and reservations.
Split the orders into replaced and standing ones and the reservations into matched and unmatched
ones; against `countedOnce` the matched reservations are too much, and the replaced orders and an
unread position too little. -/
theorem base_counts_once_iff (adapter : RiskAdapter) (purpose : RuntimeExecutionPurpose)
    (command : RuntimeExecutionCommand) (logicalRequestId : String) (policy : RiskPolicySet)
    (report : ReconciliationReport) (answers : BrokerAnswers)
    (unresolved : Except StoreError (List MutationRecord)) (db left : RiskDb)
    (result : Except RiskAdmissionError Unit) (request : RiskRequest) (base lotSize : I64)
    (hreconcile : reconcile adapter.canonicalAccountId report db = (result, left))
    (hbuilt : buildRequest adapter purpose command logicalRequestId policy (some report) answers
      unresolved (left.activeReservedDelta adapter.canonicalAccountId) = .ok request)
    (hlot : request.action.directional = true → request.snapshot.instrumentLotSize = lotSize)
    (hbase : basePosition request.snapshot = .ok base) :
    (base.val = countedOnce adapter.canonicalAccountId report left request.instrumentId lotSize ↔
      matchedLots adapter.canonicalAccountId report left request.instrumentId =
        replacedLots report command request.instrumentId +
          unreadLots report request.action request.instrumentId lotSize) ∧
    (result = .ok () → matchedLots adapter.canonicalAccountId report left request.instrumentId =
        Rows.total (fun r => holdsOn adapter.canonicalAccountId request.instrumentId r &&
          hasMatchingOrder report r) (reportedLots report) db.reservations) := by
  have hsum := base_eq_countedOnce hbuilt hlot hbase
  constructor
  · constructor
    all_goals
      intro h
      omega
  · rintro rfl
    exact matchedLots_reconcile request.instrumentId hreconcile

end

/-! ## An order of one's own -/

/-- The adapter of the account the reservation fixture belongs to. -/
def fixtureAdapter : RiskAdapter := ⟨"account-1", "connection-1"⟩

/-- An open order of ten lots, placed for the request of the reservation fixture. -/
def ownOrder : OrderFact where
  accountId := "broker-account"
  brokerOrderId := "order-1"
  logicalRequestId := some "request-1"
  instrumentUid := "instrument-1"
  side := some .buy
  lotsRequested := .lit 10
  lotsExecuted := 0
  status := .new

/-- A report that lists the order and nothing else. -/
def ownOrderReport : ReconciliationReport where
  reconciliationId := "reconciliation-1"
  runtimeEpoch := 1
  resultingState := .ready
  reasonCode := .reconciliationComplete
  resolvedLogicalRequestIds := []
  unresolvedLogicalRequestIds := []
  discrepancies := []
  completedAtUnixMs := .lit 2
  portfolio := ⟨"broker-account", none⟩
  positions := []
  activeOrders := [ownOrder]
  activeStops := []
  snapshotObservedAtUnixMs := .lit 2

/-- Broker answers for an instrument that trades in single units. -/
def fixtureAnswers : BrokerAnswers where
  connectionId := .ok ()
  executionSession := .ok 1
  now := .ok (.lit 3)
  readSession := .ok ()
  instrument := .ok (⟨.lit 1, true, true, true, true, true, true, by decide⟩, 3)
  maxLots := .ok ⟨some ⟨.lit 100, .lit 100⟩, none, none, none⟩
  limitOrderTotal := .ok none
  marginAttributes := .error "unavailable"
  protectionPlan := .ok none

/-- A market order for five more lots. -/
def fiveMoreLots : RuntimeExecutionCommand :=
  .regularOrder ⟨"broker-account", "instrument-1", "request-2", .lit 5, none, .settlementCurrency,
    .buy, .market, none, false⟩

/-- **An open order of ten lots with its own reservation makes a base position of twenty.** The
reconciliation succeeds and keeps the reservation at the ten lots of the order, and the next
request adds both. -/
theorem own_order_counted_twice : ∃ left request base,
      reconcile "account-1" ownOrderReport (RiskDb.single fixtureReservation) = (.ok (), left) ∧
      buildRequest fixtureAdapter .productionManual fiveMoreLots "request-2" fixturePolicy
        (some ownOrderReport) fixtureAnswers (.ok []) (left.activeReservedDelta "account-1") =
        .ok request ∧
      basePosition request.snapshot = .ok base ∧ base.val = 20 ∧
      countedOnce "account-1" ownOrderReport left "instrument-1" (.lit 1) = 10 :=
  ⟨_, _, _, rfl, rfl, rfl, rfl, rfl⟩

/-- Without a reservation of its own, the same order is counted once. -/
theorem foreign_order_counted_once : ∃ left request base,
      reconcile "account-1" ownOrderReport RiskDb.empty = (.ok (), left) ∧
      buildRequest fixtureAdapter .productionManual fiveMoreLots "request-2" fixturePolicy
        (some ownOrderReport) fixtureAnswers (.ok []) (left.activeReservedDelta "account-1") =
        .ok request ∧
      basePosition request.snapshot = .ok base ∧
      base.val = countedOnce "account-1" ownOrderReport left request.instrumentId (.lit 1) := by
  refine ⟨_, _, _, rfl, rfl, rfl, ?_⟩
  refine (base_counts_once_iff fixtureAdapter .productionManual fiveMoreLots "request-2"
    fixturePolicy ownOrderReport fixtureAnswers (.ok []) RiskDb.empty _ _ _ _ (.lit 1) rfl rfl
    (fun _ => rfl) rfl).1.mpr ?_
  rfl

end VoxTrader.Core
