import VoxTrader.Risk.Model

/-!
# The audit of policy changes

An audit event says which limits differ between a policy and the one before. The comparison is a
list of fields, and two fields of the policy are not on it.

## Main definitions

* `computeLimitsDelta` — the flags of the fields that differ.
* `PolicyAuditEvent.new` — the event of a change.

## Main results

* `audit_names_changes` — the event names every change, exactly if it is not one of the two fields
  only.
-/

namespace VoxTrader.Risk

inductive StateTransition
  | configOnly
  | normalToWarning
  | warningToHalted
  | normalToHalted
  | toReduceOnly
  | reduceOnlyToNormal
  | haltedToReduceOnly
  | haltedToNormal
  | warningToReduceOnly
  | toKillSwitch
  | killSwitchToReduceOnly
  | killSwitchToNormal
  | killSwitchToHalted
  | other
deriving DecidableEq

def computeTransition (old : Option RiskState) (new : RiskState) : StateTransition :=
  match old with
  | none => .configOnly
  | some oldState =>
    if oldState = new then .configOnly
    else
      match oldState, new with
      | .normal, .warning => .normalToWarning
      | .warning, .halted => .warningToHalted
      | .normal, .halted => .normalToHalted
      | .warning, .reduceOnly | .normal, .reduceOnly => .toReduceOnly
      | .reduceOnly, .normal => .reduceOnlyToNormal
      | .halted, .reduceOnly => .haltedToReduceOnly
      | .halted, .normal => .haltedToNormal
      | _, .killSwitch => .toKillSwitch
      | .killSwitch, .reduceOnly => .killSwitchToReduceOnly
      | .killSwitch, .normal => .killSwitchToNormal
      | .killSwitch, .halted => .killSwitchToHalted
      | _, _ => .other

/-- Which limits changed. -/
structure LimitsDelta where
  maxSingleOrderLotsChanged : Bool
  maxPositionAbsLotsChanged : Bool
  maxGrossExposureNanosChanged : Bool
  maxNetExposureAbsNanosChanged : Bool
  maxInstrumentExposureNanosChanged : Bool
  maxMarginUtilizationPpmChanged : Bool
  maxDailyLossNanosChanged : Bool
  maxMarketDataAgeMsChanged : Bool
  allowMarginChanged : Bool
  protectionRequiredChanged : Bool
deriving DecidableEq

def LimitsDelta.hasChanges (delta : LimitsDelta) : Bool :=
  delta.maxSingleOrderLotsChanged || delta.maxPositionAbsLotsChanged ||
    delta.maxGrossExposureNanosChanged || delta.maxNetExposureAbsNanosChanged ||
    delta.maxInstrumentExposureNanosChanged || delta.maxMarginUtilizationPpmChanged ||
    delta.maxDailyLossNanosChanged || delta.maxMarketDataAgeMsChanged ||
    delta.allowMarginChanged || delta.protectionRequiredChanged

def computeLimitsDelta (old : Option RiskPolicySet) (new : RiskPolicySet) : LimitsDelta :=
  match old with
  | none => ⟨false, false, false, false, false, false, false, false, false, false⟩
  | some old =>
    { maxSingleOrderLotsChanged := old.maxSingleOrderLots ≠ new.maxSingleOrderLots
      maxPositionAbsLotsChanged := old.maxPositionAbsLots ≠ new.maxPositionAbsLots
      maxGrossExposureNanosChanged := old.maxGrossExposureNanos ≠ new.maxGrossExposureNanos
      maxNetExposureAbsNanosChanged := old.maxNetExposureAbsNanos ≠ new.maxNetExposureAbsNanos
      maxInstrumentExposureNanosChanged :=
        old.maxInstrumentExposureNanos ≠ new.maxInstrumentExposureNanos
      maxMarginUtilizationPpmChanged := old.maxMarginUtilizationPpm ≠ new.maxMarginUtilizationPpm
      maxDailyLossNanosChanged := old.maxDailyLossNanos ≠ new.maxDailyLossNanos
      maxMarketDataAgeMsChanged := old.maxMarketDataAgeMs ≠ new.maxMarketDataAgeMs
      allowMarginChanged := old.allowMargin ≠ new.allowMargin
      protectionRequiredChanged :=
        old.protectionRequiredForNewExposure ≠ new.protectionRequiredForNewExposure }

structure PolicyAuditEvent where
  eventId : String
  oldRevision : Option ℕ
  newRevision : ℕ
  oldState : Option RiskState
  newState : RiskState
  stateTransition : StateTransition
  limitsChanged : LimitsDelta
  emittedAtUnixMs : I64

/-- The event of a change; `uuid` is drawn anew. -/
def PolicyAuditEvent.new (oldPolicy : Option RiskPolicySet) (newPolicy : RiskPolicySet)
    (oldState : Option RiskState) (emittedAtUnixMs : I64) (uuid : String) : PolicyAuditEvent :=
  let oldState := oldState.or (oldPolicy.map (·.state))
  { eventId := "policy-audit:" ++ uuid
    oldRevision := oldPolicy.map (·.revision)
    newRevision := newPolicy.revision
    oldState
    newState := newPolicy.state
    stateTransition := computeTransition oldState newPolicy.state
    limitsChanged := computeLimitsDelta oldPolicy newPolicy
    emittedAtUnixMs }

/-! ## What the event names -/

/-- Every flag is set exactly when its field differs. -/
structure LimitsDelta.Names (delta : LimitsDelta) (old new : RiskPolicySet) : Prop where
  singleOrder : delta.maxSingleOrderLotsChanged = true ↔
    old.maxSingleOrderLots ≠ new.maxSingleOrderLots
  position : delta.maxPositionAbsLotsChanged = true ↔
    old.maxPositionAbsLots ≠ new.maxPositionAbsLots
  gross : delta.maxGrossExposureNanosChanged = true ↔
    old.maxGrossExposureNanos ≠ new.maxGrossExposureNanos
  net : delta.maxNetExposureAbsNanosChanged = true ↔
    old.maxNetExposureAbsNanos ≠ new.maxNetExposureAbsNanos
  instrument : delta.maxInstrumentExposureNanosChanged = true ↔
    old.maxInstrumentExposureNanos ≠ new.maxInstrumentExposureNanos
  margin : delta.maxMarginUtilizationPpmChanged = true ↔
    old.maxMarginUtilizationPpm ≠ new.maxMarginUtilizationPpm
  dailyLoss : delta.maxDailyLossNanosChanged = true ↔ old.maxDailyLossNanos ≠ new.maxDailyLossNanos
  marketData : delta.maxMarketDataAgeMsChanged = true ↔
    old.maxMarketDataAgeMs ≠ new.maxMarketDataAgeMs
  allowMargin : delta.allowMarginChanged = true ↔ old.allowMargin ≠ new.allowMargin
  protection : delta.protectionRequiredChanged = true ↔
    old.protectionRequiredForNewExposure ≠ new.protectionRequiredForNewExposure

/-- The policies differ in nothing but the revision and the state. -/
def RiskPolicySet.SameLimits (old new : RiskPolicySet) : Prop :=
  { old with revision := new.revision, state := new.state } = new

/-- The flags are right for every two policies. -/
lemma names_computeLimitsDelta (old new : RiskPolicySet) :
    (computeLimitsDelta (some old) new).Names old new := by
  constructor <;> exact decide_eq_true_iff

/-- The policies differ in nothing but the revision, the state and the two fields that are not on
the list. -/
def RiskPolicySet.SameListed (old new : RiskPolicySet) : Prop :=
  { old with
    revision := new.revision
    state := new.state
    requireProviderLotLimit := new.requireProviderLotLimit
    maxUnprotectedDurationMs := new.maxUnprotectedDurationMs } = new

/-- The policies agree in the two fields that are not on the list. -/
def RiskPolicySet.SameUnlisted (old new : RiskPolicySet) : Prop :=
  old.requireProviderLotLimit = new.requireProviderLotLimit ∧
    old.maxUnprotectedDurationMs = new.maxUnprotectedDurationMs

/-- Changes are seen in the fields on the list. -/
lemma hasChanges_iff (old new : RiskPolicySet) :
    (computeLimitsDelta (some old) new).hasChanges = true ↔ ¬ old.SameListed new := by
  rw [← not_iff_not, not_not]
  obtain ⟨_, _, _, _, _, _, _, _, _, _, _, _, _, _⟩ := new
  simp only [computeLimitsDelta, LimitsDelta.hasChanges, RiskPolicySet.SameListed,
    RiskPolicySet.mk.injEq, Bool.or_eq_true, decide_eq_true_eq, not_or, not_not, true_and,
    and_true]
  tauto

/-- Limits are the same if they are on the list and off it. -/
lemma sameLimits_iff (old new : RiskPolicySet) :
    old.SameLimits new ↔ old.SameListed new ∧ old.SameUnlisted new := by
  obtain ⟨_, _, _, _, _, _, _, _, _, _, _, _, _, _⟩ := new
  simp only [RiskPolicySet.SameLimits, RiskPolicySet.SameListed, RiskPolicySet.SameUnlisted,
    RiskPolicySet.mk.injEq]
  tauto

/-- **The audit names every change exactly if the change is not in the two unlisted fields only**:
the demand for a lot limit of the provider and the duration without protection may change together
with a field on the list, and not alone. -/
theorem audit_names_changes (old new : RiskPolicySet) (oldState : Option RiskState)
    (emittedAtUnixMs : I64) (uuid : String) :
    let delta := (PolicyAuditEvent.new (some old) new oldState emittedAtUnixMs uuid).limitsChanged
    (delta.hasChanges = true ↔ ¬ old.SameLimits new) ∧ delta.Names old new ↔
      (old.SameListed new → old.SameUnlisted new) := by
  intro delta
  have hchanges : delta.hasChanges = true ↔ ¬ old.SameListed new := hasChanges_iff old new
  have hnames : delta.Names old new := names_computeLimitsDelta old new
  rw [hchanges, sameLimits_iff]
  constructor
  · rintro ⟨h, -⟩ hlisted
    by_contra hunlisted
    exact h.mpr (fun hsame => hunlisted hsame.2) hlisted
  · intro h
    exact ⟨⟨fun hlisted hsame => hlisted hsame.1, fun hsame hlisted => hsame ⟨hlisted, h hlisted⟩⟩,
      hnames⟩

/-- A policy without limits. -/
def unlimitedPolicy : RiskPolicySet :=
  ⟨1, .normal, true, true, none, none, none, none, none, none, none, none, false, none⟩

/-- **A demand that is dropped is not named**: new exposure no longer needs a lot limit of the
provider, and the event reports no change. -/
theorem dropped_lot_limit_is_unnamed :
    (PolicyAuditEvent.new (some unlimitedPolicy)
      { unlimitedPolicy with revision := 2, requireProviderLotLimit := false }
      none 0 "uuid").limitsChanged.hasChanges = false ∧
    ¬ unlimitedPolicy.SameLimits
      { unlimitedPolicy with revision := 2, requireProviderLotLimit := false } :=
  ⟨rfl, fun h => absurd (congrArg RiskPolicySet.requireProviderLotLimit h) nofun⟩

end VoxTrader.Risk
