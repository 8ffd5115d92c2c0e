import VoxTrader.Core.Exposure
import VoxTrader.Lib.Json

/-!
# The broker's positions, from the wire to the risk request

The broker lists what an account holds as securities, futures and options. Of each entry it tells
the quantity that is not blocked and the quantity that placed orders block, so the account holds
the sum of both. The read adapter takes the first one alone, drops an entry without the identity of
an instrument, and of two amounts in one currency keeps the later one.

## Main definitions

* `PositionsResponse` — what the broker sends.
* `PositionsState.ofResponse`, `positions` — how it is read.
* `PositionsResponse.HidesNothing` — a response that hides nothing from that reading.

## Main results

* `positions_read_whole` — a response is read whole, up to the risk request, exactly if it hides
  nothing.
* `blocked_quantity_is_lost` — an active sell order is counted twice.
-/

namespace VoxTrader.TInvest

open VoxTrader.Runtime VoxTrader.Risk VoxTrader.Core

/-! ## On the wire -/

/-- An amount of money. -/
structure MoneyValue where
  currency : String
  units : I64
  nano : FixedInt 32
deriving DecidableEq

/-- The amount in nano units. -/
def MoneyValue.nanos (value : MoneyValue) : ℤ := value.units.val * 1000000000 + value.nano.val

/-- What an account holds of a security, a future or an option. -/
structure PositionEntry where
  instrumentUid : String
  /-- The quantity that placed orders block. -/
  blocked : I64
  /-- The quantity that is not blocked. -/
  balance : I64
deriving DecidableEq

/-- What the account holds with it. -/
def PositionEntry.held (entry : PositionEntry) : ℤ := entry.balance.val + entry.blocked.val

/-- The answer to the question for positions. -/
structure PositionsResponse where
  money : List MoneyValue
  blocked : List MoneyValue
  securities : List PositionEntry
  futures : List PositionEntry
  options : List PositionEntry
deriving DecidableEq

/-- All its entries. -/
def PositionsResponse.entries (response : PositionsResponse) : List PositionEntry :=
  response.securities ++ response.futures ++ response.options

/-! ## What is read -/

/-- Why a response cannot be read. -/
inductive AccountDataError
  | invalidUnitsNano
deriving DecidableEq

/-- A text that is not blank. -/
def optionalText (value : String) : Option String :=
  if Text.isBlank value then none else some value

/-- Units and nano units, the latter less than one unit. -/
structure UnitsNano where
  units : I64
  nano : FixedInt 32
  inRange : nano.val.natAbs ≤ 999999999

/-- Units and nano units in their range. -/
def UnitsNano.new (units : I64) (nano : FixedInt 32) : Except AccountDataError UnitsNano :=
  if h : nano.val.natAbs ≤ 999999999 then .ok ⟨units, nano, h⟩ else .error .invalidUnitsNano

/-- The number in nano units. -/
def UnitsNano.totalNanos (amount : UnitsNano) : ℤ :=
  amount.units.val * 1000000000 + amount.nano.val

/-- An amount of money that was read. -/
structure CanonicalMoney where
  currency : Option String
  amount : UnitsNano

/-- Read an amount of money. -/
def canonicalMoney (value : MoneyValue) : Except AccountDataError CanonicalMoney := do
  let amount ← UnitsNano.new value.units value.nano
  return ⟨optionalText value.currency, amount⟩

/-- A position that was read. -/
structure Position where
  instrumentUid : Option String
  blocked : I64
  balance : I64

/-- Read a position. -/
def position (entry : PositionEntry) : Position :=
  ⟨optionalText entry.instrumentUid, entry.blocked, entry.balance⟩

/-- A response that was read. -/
structure PositionsState where
  money : List CanonicalMoney
  blockedMoney : List CanonicalMoney
  securities : List Position
  futures : List Position
  options : List Position

/-- Read a response. -/
def PositionsState.ofResponse (response : PositionsResponse) :
    Except AccountDataError PositionsState := do
  let money ← response.money.mapM canonicalMoney
  let blockedMoney ← response.blocked.mapM canonicalMoney
  return ⟨money, blockedMoney, response.securities.map position, response.futures.map position,
    response.options.map position⟩

/-- The positions and the cash of an account, as the runtime knows them. -/
structure PositionsFact where
  instruments : List PositionFact
  /-- The amount in nano units of each currency, as a text. -/
  cashBalances : List (String × String)

/-- The positions that have the identity of an instrument. -/
def instrumentFacts (accountId : String) (positions : List Position) : List PositionFact :=
  positions.filterMap fun position => position.instrumentUid.map fun uid =>
    ⟨accountId, uid, position.balance, none⟩

/-- The amounts that have a currency. -/
def cashEntries (money : List CanonicalMoney) : List (String × String) :=
  money.filterMap fun value => value.currency.map fun currency =>
    (currency, toString value.amount.totalNanos)

/-- A map from pairs, of which a later one replaces an earlier one. -/
def collect (pairs : List (String × String)) : List (String × String) :=
  pairs.foldl (fun rows pair => Rows.upsert Prod.fst pair (fun _ => pair) rows) []

/-- **The positions of an account.** -/
def positions (accountId : String) (response : PositionsResponse) :
    Except AccountDataError PositionsFact := do
  let state ← PositionsState.ofResponse response
  return ⟨instrumentFacts accountId state.securities ++ instrumentFacts accountId state.futures ++
    instrumentFacts accountId state.options, collect (cashEntries state.money)⟩

/-! ## Entries and facts -/

/-- The fact an entry is read as. -/
def entryFact (accountId : String) (entry : PositionEntry) : Option PositionFact :=
  (optionalText entry.instrumentUid).map fun uid => ⟨accountId, uid, entry.balance, none⟩

/-- The amount a value is read as. -/
def valueEntry (value : MoneyValue) : Option (String × String) :=
  (optionalText value.currency).map fun currency => (currency, toString value.nanos)

/-- The facts of positions that were read are those of the entries. -/
lemma instrumentFacts_map (accountId : String) (entries : List PositionEntry) :
    instrumentFacts accountId (entries.map position) = entries.filterMap (entryFact accountId) := by
  unfold instrumentFacts
  rw [List.filterMap_map]
  rfl

/-- Amounts are read one by one. -/
lemma cashEntries_of_mapM {values : List MoneyValue} {money : List CanonicalMoney}
    (h : values.mapM canonicalMoney = .ok money) :
    cashEntries money = values.filterMap valueEntry := by
  induction values generalizing money with
  | nil =>
    rw [List.mapM_nil] at h
    rw [← Except.ok.inj h]
    rfl
  | cons value values ih =>
    rw [List.mapM_cons] at h
    simp only [Except.seq_eq_ok, canonicalMoney] at h
    obtain ⟨first, ⟨amount, hamount, hfirst⟩, others, hothers, hmoney⟩ := h
    have hnanos : amount.totalNanos = value.nanos := by
      unfold UnitsNano.new at hamount
      split_ifs at hamount
      rw [← Except.ok.inj hamount]
      rfl
    rw [← Except.ok.inj hmoney, ← Except.ok.inj hfirst, List.filterMap_cons, ← ih hothers]
    unfold cashEntries valueEntry
    rw [List.filterMap_cons, hnanos]

/-- **What is read of a response.** -/
lemma positions_eq_ok {accountId : String} {response : PositionsResponse} {fact : PositionsFact}
    (h : positions accountId response = .ok fact) :
    fact.instruments = response.entries.filterMap (entryFact accountId) ∧
      fact.cashBalances = collect (response.money.filterMap valueEntry) := by
  simp only [positions, PositionsState.ofResponse, Except.seq_eq_ok] at h
  obtain ⟨state, ⟨money, hmoney, _, -, hstate⟩, hfact⟩ := h
  rw [← Except.ok.inj hfact, ← Except.ok.inj hstate]
  refine ⟨?_, congrArg collect (cashEntries_of_mapM hmoney)⟩
  simp only [instrumentFacts_map, PositionsResponse.entries, List.filterMap_append]

/-! ## Responses that hide nothing -/

/-- The quantity of an instrument that a response shows. -/
def PositionsResponse.units (response : PositionsResponse) (instrumentUid : String) : ℤ :=
  Rows.total (fun entry : PositionEntry => decide (entry.instrumentUid = instrumentUid))
    PositionEntry.held response.entries

/-- The cash of a currency that a response shows. -/
def PositionsResponse.cash (response : PositionsResponse) (currency : String) : ℤ :=
  Rows.total (fun value : MoneyValue => decide (value.currency = currency)) MoneyValue.nanos
    response.money

/-- The quantity of an instrument that was read. -/
def unitsRead (facts : List PositionFact) (instrumentUid : String) : ℤ :=
  Rows.total (fun fact : PositionFact => decide (fact.instrumentUid = instrumentUid))
    (fun fact => fact.quantityUnits.val) facts

/-- The quantity of an instrument that orders block. -/
def PositionsResponse.blockedUnits (response : PositionsResponse) (instrumentUid : String) : ℤ :=
  Rows.total (fun entry : PositionEntry => decide (entry.instrumentUid = instrumentUid))
    (fun entry => entry.blocked.val) response.entries

/-- The last amount of a currency. -/
def PositionsResponse.lastAmount (response : PositionsResponse) (currency : String) :
    Option MoneyValue :=
  (response.money.filter fun value => decide (value.currency = currency)).getLast?

/-- **The response hides nothing** from the reading: of every instrument what orders block adds up
to nothing, what is held has an instrument, and of every currency the last amount is all. -/
structure PositionsResponse.HidesNothing (response : PositionsResponse) : Prop where
  unblocked : ∀ instrumentUid, Text.isBlank instrumentUid = false →
    response.blockedUnits instrumentUid = 0
  named : ∀ entry ∈ response.entries, entry.held ≠ 0 → Text.isBlank entry.instrumentUid = false
  last : ∀ currency, Text.isBlank currency = false → ∀ value ∈ response.lastAmount currency,
    value.nanos = response.cash currency

section

variable {accountId instrumentUid currency : String} {response : PositionsResponse}

/-- An instrument that is named is read as its balances. -/
lemma total_entryFacts (hnamed : Text.isBlank instrumentUid = false) :
    unitsRead (response.entries.filterMap (entryFact accountId)) instrumentUid =
      response.units instrumentUid - response.blockedUnits instrumentUid := by
  unfold unitsRead PositionsResponse.units PositionsResponse.blockedUnits
  induction response.entries with
  | nil => rfl
  | cons entry entries ih =>
    simp only [Rows.total_eq_sum, List.map_cons, List.sum_cons, decide_eq_true_eq] at ih ⊢
    rw [List.filterMap_cons]
    by_cases huid : entry.instrumentUid = instrumentUid
    · have hfact : entryFact accountId entry =
          some ⟨accountId, instrumentUid, entry.balance, none⟩ := by
        simp [entryFact, optionalText, huid, hnamed]
      simp only [hfact, List.map_cons, List.sum_cons, ih, huid, if_true, PositionEntry.held]
      ring
    · rcases hblank : Text.isBlank entry.instrumentUid with _ | _ <;>
        simp [entryFact, optionalText, hblank, huid, ih]

/-- A fact is about an instrument that is named. -/
lemma named_of_mem_entryFacts {fact : PositionFact}
    (h : fact ∈ response.entries.filterMap (entryFact accountId)) :
    Text.isBlank fact.instrumentUid = false := by
  obtain ⟨entry, -, hfact⟩ := List.mem_filterMap.mp h
  rcases hblank : Text.isBlank entry.instrumentUid with _ | _
  · simp only [entryFact, optionalText, hblank, Bool.false_eq_true, if_false, Option.map_some,
      Option.some.injEq] at hfact
    rwa [← hfact]
  · simp [entryFact, optionalText, hblank] at hfact

/-- An instrument that is not named is read as nothing. -/
lemma total_entryFacts_unnamed (hblank : Text.isBlank instrumentUid = true) :
    unitsRead (response.entries.filterMap (entryFact accountId)) instrumentUid = 0 := by
  have hnone : (response.entries.filterMap (entryFact accountId)).filter
      (fun fact => decide (fact.instrumentUid = instrumentUid)) = [] := by
    refine List.filter_eq_nil_iff.mpr fun fact hfact huid => ?_
    rw [← of_decide_eq_true huid, named_of_mem_entryFacts hfact] at hblank
    cases hblank
  rw [unitsRead, Rows.total, hnone]
  rfl

/-- Entries that hold nothing are nothing together. -/
lemma units_eq_zero (h : ∀ entry ∈ response.entries, entry.instrumentUid = instrumentUid →
    entry.held = 0) : response.units instrumentUid = 0 := by
  rw [PositionsResponse.units, Rows.total_eq_sum]
  refine List.sum_eq_zero fun share hshare => ?_
  obtain ⟨entry, hentry, rfl⟩ := List.mem_map.mp hshare
  by_cases huid : entry.instrumentUid = instrumentUid <;> simp [huid, h entry hentry]

/-- A map finds the last pair of a key that was put in. -/
lemma select_collect (pairs : List (String × String)) (key : String) :
    Rows.select Prod.fst key (collect pairs) =
      (pairs.filter fun pair => decide (pair.1 = key)).getLast? := by
  induction pairs using List.reverseRecOn with
  | nil => rfl
  | append_singleton pairs pair ih =>
    rw [collect, List.foldl_concat, ← collect, Rows.select_put, ih, List.filter_append]
    by_cases hkey : pair.1 = key
    · simp [hkey]
    · simp [hkey, Ne.symm hkey]

/-- The cash in a currency is read as its last amount. -/
lemma select_cash (hcurrency : Text.isBlank currency = false) :
    Rows.select Prod.fst currency (collect (response.money.filterMap valueEntry)) =
      (response.lastAmount currency).map fun value => (currency, toString value.nanos) := by
  have hfilter (values : List MoneyValue) :
      (values.filterMap valueEntry).filter (fun pair => decide (pair.1 = currency)) =
        (values.filter fun value => decide (value.currency = currency)).map
          fun value => (currency, toString value.nanos) := by
    induction values with
    | nil => rfl
    | cons value values ih =>
      rw [List.filterMap_cons]
      by_cases hsame : value.currency = currency
      · simp [valueEntry, optionalText, hsame, hcurrency, ih]
      · rcases hblank : Text.isBlank value.currency with _ | _ <;>
          simp [valueEntry, optionalText, hblank, hsame, ih]
  rw [select_collect, hfilter, List.getLast?_map]
  rfl

/-- The text of a number is that of no other. -/
lemma toString_int_inj {a b : ℤ} : toString a = toString b ↔ a = b := by
  refine ⟨fun h => ?_, fun h => h ▸ rfl⟩
  have hread (n : ℤ) : Json.readNumber ((toString n).toList ++ []) = some (n, []) :=
    Json.readNumber_render Json.ends_nil
  have hsame := hread a
  rw [h, hread b] at hsame
  exact (congrArg Prod.fst (Option.some.inj hsame)).symm

/-- The cash in a currency is read as the sum of its amounts, exactly if the last one is all. -/
lemma cash_read_iff (hcurrency : Text.isBlank currency = false) :
    Rows.select Prod.fst currency (collect (response.money.filterMap valueEntry)) =
        (if response.money.any (·.currency = currency) then
          some (currency, toString (response.cash currency)) else none) ↔
      ∀ value ∈ response.lastAmount currency, value.nanos = response.cash currency := by
  rw [select_cash hcurrency]
  rcases hlast : response.lastAmount currency with _ | value
  · -- without an amount there is nothing to read
    have hnone : response.money.any (·.currency = currency) = false := by
      simpa [PositionsResponse.lastAmount] using hlast
    simp [hnone]
  · have hsome : response.money.any (·.currency = currency) = true := by
      have hmem := List.mem_filter.mp (List.mem_of_getLast? hlast)
      exact List.any_eq_true.mpr ⟨value, hmem⟩
    rw [hsome, if_pos rfl, Option.map_some, Option.some.injEq, Prod.mk.injEq, toString_int_inj]
    simp

end

/-! ## The whole position -/

/-- The lots of the active orders of an instrument that a command does not replace. -/
def openLots (report : ReconciliationReport) (command : RuntimeExecutionCommand)
    (instrumentUid : String) : ℤ :=
  Rows.total (fun order : OrderFact => decide (order.instrumentUid = instrumentUid) &&
    !(replaces command).any (goesBy order)) orderLots report.activeOrders

/-- What a request counts as the base of a command that trades an instrument: what is held, and the
open orders. -/
def CountedWhole (response : PositionsResponse) (fact : PositionsFact) : Prop :=
  ∀ adapter purpose command logicalRequestId policy report answers unresolved reserved request,
    report.positions = fact.instruments →
    buildRequest adapter purpose command logicalRequestId policy (some report) answers unresolved
      reserved = .ok request →
    request.action.directional = true →
    request.snapshot.currentPositionLots.val + request.snapshot.openOrderDeltaLots.val =
      (response.units request.instrumentId).tdiv request.snapshot.instrumentLotSize.val +
        openLots report command request.instrumentId

/-- Facts that add up to what is held are counted whole. -/
lemma countedWhole {response : PositionsResponse} {fact : PositionsFact}
    (htotal : ∀ uid, unitsRead fact.instruments uid = response.units uid) :
    CountedWhole response fact := by
  intro adapter purpose command logicalRequestId policy report answers unresolved reserved request
    hreport hbuilt hdirectional
  obtain ⟨_, description, hsome, hfrom⟩ := buildRequest_eq_ok hbuilt
  cases hsome
  obtain ⟨facts, hfacts, hposition, hlot⟩ := hfrom.position
  have hlots := directionalFacts_eq_ok (fun _ => rfl) hfacts
  rw [unreadLots, if_pos (hfrom.action ▸ hdirectional), sub_zero, positionLots, positionUnits,
    hreport, ← unitsRead, htotal] at hlots
  have horders := openOrderDelta_eq_ok hfrom.orders
  rw [commandDescription_replaces hfrom.described] at horders
  rw [hposition, hlots, horders, hlot, hfrom.instrument]
  rfl

/-- **A response is read whole exactly if it hides nothing.** Then the facts about every instrument
add up to what is held of it, no entry that holds something is dropped, the cash of a currency is
the sum of its amounts, and the request of a command that trades the instrument counts what is held
and the open orders. -/
theorem positions_read_whole (accountId : String) (response : PositionsResponse)
    (fact : PositionsFact) (hread : positions accountId response = .ok fact) :
    (∀ uid, unitsRead fact.instruments uid = response.units uid) ∧
    (∀ entry ∈ response.entries, entry.held ≠ 0 → ∃ f ∈ fact.instruments,
      f.instrumentUid = entry.instrumentUid) ∧
    (∀ currency, Text.isBlank currency = false → Rows.select Prod.fst currency fact.cashBalances =
        if response.money.any (·.currency = currency) then
          some (currency, toString (response.cash currency))
        else none) ∧
    CountedWhole response fact ↔ response.HidesNothing := by
  obtain ⟨hinstruments, hcash⟩ := positions_eq_ok hread
  rw [hcash]
  constructor
  · rintro ⟨htotal, hkept, hsums, -⟩
    refine ⟨fun uid hnamed => ?_, fun entry hentry hheld => ?_, fun currency hcurrency =>
      (cash_read_iff hcurrency).mp (hsums currency hcurrency)⟩
    · have hsum := htotal uid
      rw [hinstruments, total_entryFacts hnamed] at hsum
      omega
    · obtain ⟨f, hf, huid⟩ := hkept entry hentry hheld
      rw [hinstruments] at hf
      exact huid ▸ named_of_mem_entryFacts hf
  · intro h
    have htotal (uid : String) : unitsRead fact.instruments uid = response.units uid := by
      rw [hinstruments]
      rcases hblank : Text.isBlank uid with _ | _
      · rw [total_entryFacts hblank, h.unblocked uid hblank, sub_zero]
      · rw [total_entryFacts_unnamed hblank, units_eq_zero fun entry hentry huid => ?_]
        by_contra hheld
        rw [← huid, h.named entry hentry hheld] at hblank
        cases hblank
    refine ⟨htotal, fun entry hentry hheld => ?_, fun currency hcurrency =>
      (cash_read_iff hcurrency).mpr (h.last currency hcurrency), countedWhole htotal⟩
    refine ⟨⟨accountId, entry.instrumentUid, entry.balance, none⟩, ?_, rfl⟩
    rw [hinstruments]
    refine List.mem_filterMap.mpr ⟨entry, hentry, ?_⟩
    simp [entryFact, optionalText, h.named entry hentry hheld]

/-- A report on an account with these positions and an open order to sell. -/
def sellingReport (positions : List PositionFact) (lots : I64) : ReconciliationReport :=
  { ownOrderReport with
    positions := positions
    activeOrders := [{ ownOrder with side := some .sell, lotsRequested := lots }] }

/-- Ten units are held and no order blocks any of them. -/
def plainResponse : PositionsResponse where
  money := [⟨"rub", .lit 5, 0⟩]
  blocked := []
  securities := [⟨"instrument-1", 0, .lit 10⟩]
  futures := []
  options := []

/-- The plain response is read whole, and an order of four lots leaves six. -/
theorem plain_response_read : ∃ fact request, positions "broker-account" plainResponse = .ok fact ∧
    buildRequest fixtureAdapter .productionManual fiveMoreLots "request-2" fixturePolicy
      (some (sellingReport fact.instruments (.lit 4))) fixtureAnswers (.ok []) (fun _ => .ok 0) =
      .ok request ∧
    request.snapshot.currentPositionLots.val + request.snapshot.openOrderDeltaLots.val = 6 := by
  have hplain : plainResponse.HidesNothing := by
    refine ⟨fun uid _ => ?_, by decide, fun currency _ value hvalue => ?_⟩
    · by_cases huid : "instrument-1" = uid <;>
        simp [PositionsResponse.blockedUnits, PositionsResponse.entries, plainResponse,
          Rows.total, huid]
    · by_cases hsame : "rub" = currency
      · simp only [PositionsResponse.lastAmount, plainResponse, hsame, decide_true,
          List.filter_cons_of_pos, List.filter_nil, List.getLast?_singleton, Option.mem_def,
          Option.some.injEq] at hvalue
        simp [PositionsResponse.cash, plainResponse, Rows.total, ← hvalue, hsame]
      · simp [PositionsResponse.lastAmount, plainResponse, hsame] at hvalue
  refine ⟨_, _, rfl, rfl, ?_⟩
  exact ((positions_read_whole "broker-account" plainResponse _ rfl).mpr hplain).2.2.2
    fixtureAdapter .productionManual fiveMoreLots "request-2" fixturePolicy
    (sellingReport _ (.lit 4)) fixtureAnswers (.ok []) (fun _ => .ok 0) _ rfl rfl rfl

/-- Ten units of one instrument are held, of which an order to sell blocks four, and three units of
an instrument that is not named; there are two amounts in one currency. -/
def blockedResponse : PositionsResponse where
  money := [⟨"rub", .lit 5, 0⟩, ⟨"rub", .lit 7, 0⟩]
  blocked := []
  securities := [⟨"instrument-1", .lit 4, .lit 6⟩, ⟨"", 0, .lit 3⟩]
  futures := []
  options := []

/-- **What an order blocks is lost.** Six units are read of the ten that are held, and the request
counts the order to sell once more: the base is two, not six. The units of the other instrument are
not read at all, and of the cash the later amount is left. -/
theorem blocked_quantity_is_lost : ∃ fact request,
    positions "broker-account" blockedResponse = .ok fact ∧
    blockedResponse.units "instrument-1" = 10 ∧
    fact.instruments = [⟨"broker-account", "instrument-1", .lit 6, none⟩] ∧
    fact.cashBalances = [("rub", "7000000000")] ∧ blockedResponse.cash "rub" = 12000000000 ∧
    buildRequest fixtureAdapter .productionManual fiveMoreLots "request-2" fixturePolicy
      (some (sellingReport fact.instruments (.lit 4))) fixtureAnswers (.ok []) (fun _ => .ok 0) =
      .ok request ∧
    request.snapshot.currentPositionLots.val + request.snapshot.openOrderDeltaLots.val =
      10 - 2 * 4 :=
  ⟨_, _, rfl, rfl, by decide +kernel, by decide +kernel, rfl, rfl, rfl⟩

end VoxTrader.TInvest
