import Mathlib.Data.Int.Notation
import Mathlib.Data.Nat.Notation
import Mathlib.Logic.Function.Basic
import VoxTrader.Lib.Check

/-!
# The gate for market events

Every market event that a subscription asked for passes a gate before it is handed on: it is
accepted, or dropped as a duplicate or as out of order. For each instrument and family of events the
gate remembers the latest time and what it has let through at that time, over all connections.
Candles of different intervals or sources, and trades of different sources, share one such memory.

## Main definitions

* `EventSequenceGate`, `observe` — the gate.
* `processEvent` — an event of a response: the check against the desired subscriptions, the
  conversion and the gate.

## Main results

* `disposition_depends_on_subscription` — **the events of one subscription alone decide**, as long
  as no other subscription of the same instrument and family sends events.
* `longer_candle_drops_shorter` — otherwise they do not.
-/

namespace VoxTrader.TInvest

open Except (stopIf orStop)

/-! ## Subscriptions and events -/

/-- What is subscribed to. -/
inductive SubscriptionKind
  | candle (interval : ℤ) (waitingClose : Bool) (source : Option ℤ)
  | orderBook (depth orderBookType : ℤ)
  | trade (source : ℤ) (withOpenInterest : Bool)
  | info
  | lastPrice
deriving DecidableEq

/-- A subscription for an instrument. -/
structure MarketSubscription where
  instrumentId : String
  kind : SubscriptionKind
deriving DecidableEq

/-- Whether events of the one kind are looked for under the other: the options do not count. -/
def sameEventFamily : SubscriptionKind → SubscriptionKind → Bool
  | .candle .., .candle .. | .orderBook .., .orderBook .. | .trade .., .trade .. | .info, .info
  | .lastPrice, .lastPrice => true
  | _, _ => false

/-- What an event belongs to. -/
inductive EventStream
  | candle (interval candleSourceType : ℤ)
  | trade (tradeSource : ℤ)
  | tradingStatus
  | lastPrice
  | openInterest
deriving DecidableEq

/-- The family of an event. -/
inductive EventFamily
  | candle
  | trade
  | tradingStatus
  | lastPrice
  | openInterest
deriving DecidableEq

namespace EventStream

/-- The family by which the gate knows an event. -/
def family : EventStream → EventFamily
  | candle _ _ => .candle
  | trade _ => .trade
  | tradingStatus => .tradingStatus
  | lastPrice => .lastPrice
  | openInterest => .openInterest

/-- The subscription that is looked for. -/
def kind : EventStream → SubscriptionKind
  | candle interval candleSourceType => .candle interval false (some candleSourceType)
  | trade tradeSource => .trade tradeSource false
  | tradingStatus => .info
  | lastPrice => .lastPrice
  | openInterest => .trade 0 true

end EventStream

/-- An event as it arrives: its bytes, and its time if the conversion of its fields succeeds. -/
structure MarketEvent where
  instrumentUid : String
  stream : EventStream
  eventTimeNs : Option ℕ
  fingerprint : List UInt8
deriving DecidableEq

/-- The instrument and the family. -/
abbrev EventKey := String × EventFamily

/-- The key under which the gate remembers an event. -/
def MarketEvent.key (event : MarketEvent) : EventKey := (event.instrumentUid, event.stream.family)

/-- The events come from one subscription. -/
def MarketEvent.SameSubscription (event other : MarketEvent) : Prop :=
  other.instrumentUid = event.instrumentUid ∧ other.stream = event.stream
deriving Decidable

/-! ## The gate -/

/-- What becomes of an event. -/
inductive EventDisposition
  | accept
  | duplicate
  | outOfOrder
deriving DecidableEq

/-- The latest time of a key, and the bytes of the events at that time. -/
abbrev EventFingerprints := ℕ × List (List UInt8)

/-- The gate: what was seen of each key. -/
abbrev EventSequenceGate := EventKey → Option EventFingerprints

/-- An event passes what was seen of its key. -/
def observeKey (seen : Option EventFingerprints) (eventTimeNs : ℕ) (fingerprint : List UInt8) :
    EventFingerprints × EventDisposition :=
  match seen with
  | none => ((eventTimeNs, [fingerprint]), .accept)
  | some (latest, fingerprints) =>
    if eventTimeNs < latest then ((latest, fingerprints), .outOfOrder)
    else if eventTimeNs = latest then
      if fingerprint ∈ fingerprints then ((latest, fingerprints), .duplicate)
      else ((latest, fingerprint :: fingerprints), .accept)
    else ((eventTimeNs, [fingerprint]), .accept)

/-- An event passes the gate. -/
def observe (gate : EventSequenceGate) (key : EventKey) (eventTimeNs : ℕ)
    (fingerprint : List UInt8) : EventSequenceGate × EventDisposition :=
  let (seen, disposition) := observeKey (gate key) eventTimeNs fingerprint
  (Function.update gate key (some seen), disposition)

/-- Why an event ends the connection. -/
inductive MarketDataSupervisorError
  | undesiredEvent
  | marketData
deriving DecidableEq

/-- A subscription of the family is desired, acknowledged or not. -/
def acceptsEventBeforeAck (desired : List MarketSubscription) (instrumentId : String)
    (kind : SubscriptionKind) : Bool :=
  desired.any fun entry => entry.instrumentId = instrumentId && sameEventFamily entry.kind kind

/-- Process an event. -/
def processEvent (desired : List MarketSubscription) (gate : EventSequenceGate)
    (event : MarketEvent) :
    Except MarketDataSupervisorError (EventSequenceGate × EventDisposition) := do
  stopIf (acceptsEventBeforeAck desired event.instrumentUid event.stream.kind = false)
    .undesiredEvent
  let eventTimeNs ← orStop event.eventTimeNs .marketData
  return observe gate event.key eventTimeNs event.fingerprint

/-- The gate after an event; an event that ends the connection leaves it as it is. -/
def gateStep (desired : List MarketSubscription) (gate : EventSequenceGate) (event : MarketEvent) :
    EventSequenceGate :=
  ((processEvent desired gate event).toOption.map (·.1)).getD gate

/-- The gate after the events of any number of connections. -/
def gateAfter (desired : List MarketSubscription) (history : List MarketEvent) :
    EventSequenceGate :=
  history.foldl (gateStep desired) fun _ => none

/-- What becomes of an event after others. -/
def disposition (desired : List MarketSubscription) (history : List MarketEvent)
    (event : MarketEvent) : Except MarketDataSupervisorError EventDisposition :=
  (processEvent desired (gateAfter desired history) event).map (·.2)

/-! ## What decides -/

section

variable {desired desired' : List MarketSubscription} {gate gate' : EventSequenceGate}
  {event other : MarketEvent}

/-- An event leaves what was seen of other keys. -/
lemma gateStep_of_ne {key : EventKey} (h : key ≠ event.key) :
    gateStep desired gate event key = gate key := by
  unfold gateStep processEvent stopIf
  split_ifs
  · rfl
  · cases event.eventTimeNs with
    | none => rfl
    | some => exact Function.update_of_ne h _ _

/-- What an event does at its key depends on what was seen of the key. -/
lemma processEvent_congr
    (hdesired : acceptsEventBeforeAck desired event.instrumentUid event.stream.kind =
      acceptsEventBeforeAck desired' event.instrumentUid event.stream.kind)
    (h : gate event.key = gate' event.key) :
    (processEvent desired gate event).map (·.2) = (processEvent desired' gate' event).map (·.2) ∧
      gateStep desired gate event event.key = gateStep desired' gate' event event.key := by
  unfold gateStep processEvent
  rw [hdesired]
  unfold stopIf
  split_ifs
  · exact ⟨rfl, h⟩
  · cases event.eventTimeNs with
    | none => exact ⟨rfl, h⟩
    | some =>
      change Except.ok (observeKey (gate event.key) _ _).2 =
        .ok (observeKey (gate' event.key) _ _).2 ∧
        Function.update gate _ (some (observeKey (gate event.key) _ _).1) _ =
          Function.update gate' _ (some (observeKey (gate' event.key) _ _).1) _
      rw [h, Function.update_self, Function.update_self]
      exact ⟨rfl, rfl⟩

/-- What was seen of a key is the run of the events of one subscription, if no other has sent any;
the desired sets may differ as long as they agree on it. -/
lemma foldl_gateStep_filter {history : List MarketEvent}
    (hdesired : acceptsEventBeforeAck desired event.instrumentUid event.stream.kind =
      acceptsEventBeforeAck desired' event.instrumentUid event.stream.kind)
    (halone : ∀ other ∈ history, other.key = event.key → event.SameSubscription other)
    (h : gate event.key = gate' event.key) : history.foldl (gateStep desired) gate event.key =
      (history.filter (event.SameSubscription ·)).foldl (gateStep desired') gate' event.key := by
  induction history generalizing gate gate' with
  | nil => exact h
  | cons other history ih =>
    obtain ⟨hother, hrest⟩ := List.forall_mem_cons.mp halone
    by_cases hkey : other.key = event.key
    · have hsame := hother hkey
      rw [List.filter_cons_of_pos (by simpa using hsame)]
      rw [← hsame.1, ← hsame.2] at hdesired
      refine ih hrest ?_
      rw [← hkey] at h ⊢
      exact (processEvent_congr hdesired h).2
    · have hne : ¬ event.SameSubscription other := fun ⟨hinstrument, hstream⟩ =>
        hkey (by rw [MarketEvent.key, hinstrument, hstream]; rfl)
      rw [List.filter_cons_of_neg (by simpa using hne)]
      exact ih hrest ((gateStep_of_ne (Ne.symm hkey)).trans h)

end

/-- **The events of one subscription alone decide** whether an event is accepted or dropped, as long
as no other subscription of the same instrument and family has sent events; also when the desired
subscriptions are others. -/
theorem disposition_depends_on_subscription (desired desired' : List MarketSubscription)
    (history history' : List MarketEvent) (event : MarketEvent)
    (hdesired : acceptsEventBeforeAck desired event.instrumentUid event.stream.kind =
      acceptsEventBeforeAck desired' event.instrumentUid event.stream.kind)
    (hsame : history.filter (event.SameSubscription ·) = history'.filter (event.SameSubscription ·))
    (halone : ∀ other ∈ history ++ history', other.key = event.key → event.SameSubscription other) :
    disposition desired history event = disposition desired' history' event := by
  obtain ⟨halone, halone'⟩ := List.forall_mem_append.mp halone
  refine (processEvent_congr hdesired ?_).1
  rw [gateAfter, gateAfter, foldl_gateStep_filter hdesired halone rfl,
    foldl_gateStep_filter rfl halone' rfl, hsame]

/-- A candle of an instrument. -/
def candleAt (interval : ℤ) (eventTimeNs : ℕ) : MarketEvent :=
  ⟨"uid", .candle interval 0, some eventTimeNs, []⟩

/-- Events of another family do not matter: the last price that came in between is later. -/
theorem last_price_leaves_candle : disposition [⟨"uid", .candle 1 false none⟩] [] (candleAt 1 240) =
    disposition [⟨"uid", .candle 1 false none⟩, ⟨"uid", .lastPrice⟩]
      [⟨"uid", .lastPrice, some 300, []⟩] (candleAt 1 240) :=
  disposition_depends_on_subscription _ _ _ _ _ (by decide) (by decide) (by decide)

/-- **A longer candle drops a shorter one.** With candles of one and of five minutes, a new candle
of five minutes makes the last candle of one minute, which is older, out of order. -/
theorem longer_candle_drops_shorter :
    [candleAt 2 300].filter ((candleAt 1 240).SameSubscription ·) = [] ∧
    disposition [⟨"uid", .candle 1 false none⟩] [] (candleAt 1 240) = .ok .accept ∧
    disposition [⟨"uid", .candle 1 false none⟩, ⟨"uid", .candle 2 false none⟩] [candleAt 2 300]
      (candleAt 1 240) = .ok .outOfOrder :=
  ⟨rfl, rfl, rfl⟩

end VoxTrader.TInvest
