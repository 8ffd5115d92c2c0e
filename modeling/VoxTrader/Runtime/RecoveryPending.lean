import VoxTrader.Runtime.OneCoordinator

/-!
# Pending recoveries

A required stream that gaps, an overflow, an order or stop nobody here asked for and a dispatch with
an unknown outcome all move the runtime out of `READY`. The gate should then stay closed until the
broker was read again and the report was applied.

The lock of a reconciliation is given back before its report is applied. A report that was made
before the recovery was asked for can therefore be applied after it, and make the runtime `READY`
again with the recovery still to come. And the streams are marked as connected again before the last
reconciliation of a gap, so that a report of somebody else can open the gate in between.

## Main definitions

* `Resolved` — a reconciliation was begun and its report was applied.
* `Held` — the state is not `READY`, and every report that can change that is a new one.
* `aloneInside` — nobody else has a report that is still to be applied.
* `reconnectsHeld` — the streams are marked as connected only when that opens nothing.

## Main results

* `gate_closed_until_resolved` — a transition away from `READY` at which no other reconciliation is
  under way keeps the gate closed until a reconciliation that is begun afterwards is applied.
* `stale_report_opens_gate` — a report made before an overflow opens the gate while the recovery is
  pending.
-/

namespace VoxTrader.Runtime

open System

open List (mem_cons append_assoc replicate)
open Option (map_some bind_eq_some_iff)

variable {R : Interface}

/-! ## What processes do while a recovery is pending -/

/-- A process looked at the state. -/
def Deed.looks : Deed R → Bool
  | ⟨_, .inl (.inl (.inl (.volatile .readState))), _⟩ => true
  | _ => false

/-- A process marked the streams as connected. -/
def Deed.connects : Deed R → Bool
  | ⟨_, .inl (.inl (.inl (.volatile (.storeConnected value)))), _⟩ => value
  | _ => false

/-- **A reconciliation was applied**: its process began it, and moved the state to `READY`
afterwards. -/
def Resolved (newer : List (Deed R)) : Prop :=
  Since (fun applied older => applied.moves = some .ready ∧
      ∃ began ∈ older, began.begins = true ∧ began.who = applied.who)
    (fun _ => True) newer

variable {newer : List (Deed R)} {v v' : View R} {action : Action R}

lemma Resolved.later {e : Deed R} (h : Resolved newer) : Resolved (e :: newer) :=
  Since.later h trivial

/-- The process dispatches a command that can add exposure, and has looked at the state. -/
def Checking (since : List (Deed R)) (who : ℕ) (m : Member) : Prop :=
  m.activity.exposing = true ∧ ∃ e ∈ since, e.who = who ∧ e.looks = true

variable {deed : Deed R}

/-- Who is checking after an operation of its own looks at the state with it, or was before. -/
lemma Checking.own {since : List (Deed R)} {m m' : Member}
    (h : Checking (deed :: since) deed.who m')
    (hnext : m'.activity = (activityDiscipline R).next deed.op deed.res m.activity) :
    deed.looks = true ∨ Checking since deed.who m := by
  obtain ⟨hexposing, e, he, hwho, hlooks⟩ := h
  rcases mem_cons.mp he with rfl | he
  · exact .inl hlooks
  · refine .inr ⟨?_, e, he, hwho, hlooks⟩
    rw [← hexposing, hnext]
    exact activity_exposing.symm

/-- Who is checking after an operation of another process was before. -/
lemma Checking.other {since : List (Deed R)} {who : ℕ} {m : Member}
    (h : Checking (deed :: since) who m) (hne : who ≠ deed.who) : Checking since who m := by
  obtain ⟨hexposing, e, he, hwho, hlooks⟩ := h
  rcases mem_cons.mp he with rfl | he
  · exact absurd hwho.symm hne
  · exact ⟨hexposing, e, he, hwho, hlooks⟩

/-- The state is not `READY`, reconciliations are under way that began lately only, and nobody who
has looked at the state lately has seen it `READY`. -/
structure Held (lately since : List (Deed R)) (v : View R) : Prop where
  state : v.memory.state ≠ .ready
  inside : ∀ {who m}, v.members who = some m → m.live = true → m.activity.inside = true →
    ∃ began ∈ lately, began.begins = true ∧ began.who = who
  gate : ∀ {who m}, v.members who = some m → Checking since who m → m.activity.gate = 0

section

variable {who : ℕ} {giveUp : Bool} {op : (full R).Op} {r : (full R).Res op} {a : Activity}
  {i i' : Instance}

/-- Who has seen nothing of the gate sees nothing of it without looking at the state. -/
lemma gate_next (hlooks : Deed.looks ⟨who, op, r⟩ = false) (h : a.gate = 0) :
    ((activityDiscipline R).next op r a).gate = 0 := by
  rcases volatile_or_beside op with ⟨op, rfl⟩ | hother
  · cases op with
    | readState => cases hlooks
    | loadConnected | loadDirty | loadRunning => exact if_neg fun hgate => by omega
    | spawn task => cases task <;> exact h
    | _ => exact h
  · have hbeside := activity_beside (r := r) (a := a) hother
    exact Nat.le_zero.mp (hbeside.gate.trans h.le)

/-- Who looks at a state that is not `READY` sees that. -/
lemma gate_looks (hlooks : Deed.looks ⟨who, op, r⟩ = true)
    (heffect : Effect who giveUp op r i i') (hstate : i.state ≠ .ready) :
    ((activityDiscipline R).next op r a).gate = 0 := by
  unfold Deed.looks at hlooks
  split at hlooks
  · rename_i heq
    cases heq
    have hexec := heffect.exec
    simp only [Volatile.exec] at hexec
    split_ifs at hexec
    cases hexec
    exact if_neg hstate
  · cases hlooks

/-- While the streams are marked as not connected nobody sees more than the state. -/
lemma gate_disconnected (heffect : Effect who giveUp op r i i')
    (hconnected : i.connected = false) (h : Deed.looks ⟨who, op, r⟩ = true ∨ a.gate ≤ 1) :
    ((activityDiscipline R).next op r a).gate ≤ 1 := by
  rcases volatile_or_beside op with ⟨op, rfl⟩ | hother
  · have hexec := heffect.exec
    cases op with
    | readState =>
      change RuntimeState at r
      change (if r = .ready then 1 else 0) ≤ 1
      split_ifs <;> omega
    | loadConnected =>
      cases hexec
      change (if i.connected = true ∧ _ then 2 else 0) ≤ 1
      rw [hconnected, if_neg fun h => by cases h.1]
      omega
    | loadDirty | loadRunning =>
      have hgate : a.gate ≤ 1 := h.resolve_left nofun
      exact (if_neg fun h => by omega).le.trans (Nat.zero_le _)
    | spawn task => cases task <;> exact h.resolve_left nofun
    | _ => exact h.resolve_left nofun
  · refine (activity_beside hother).gate.trans (h.resolve_left fun hlooks => ?_)
    unfold Deed.looks at hlooks
    split at hlooks
    · rename_i heq
      cases heq
      exact hother _ rfl
    · cases hlooks

/-- Only one operation marks the streams as connected. -/
lemma connected_next (heffect : Effect who giveUp op r i i')
    (hconnects : Deed.connects ⟨who, op, r⟩ = false) (hconnected : i.connected = false) :
    i'.connected = false := by
  rcases volatile_or_beside op with ⟨op, rfl⟩ | hother
  · by_cases hstore : ∃ value, op = .storeConnected value
    · obtain ⟨value, rfl⟩ := hstore
      cases heffect.exec
      exact hconnects
    · exact (exec_connected (fun value h => hstore ⟨value, h⟩) heffect.exec).trans hconnected
  · rw [heffect.eq hother]
    exact hconnected

lemma op_of_connects (h : Deed.connects ⟨who, op, r⟩ = true) :
    op = .inl (.inl (.inl (.volatile (.storeConnected true)))) := by
  unfold Deed.connects at h
  split at h
  · rename_i value _ heq
    subst h
    exact congrArg Deed.op heq
  · cases h

end

/-! ## Until it is resolved -/

namespace Held

variable {lately since : List (Deed R)}

/-- Nothing is performed. -/
private lemma idle_kept (h : Held lately since v) (hstep : v.Step action v')
    (haction : action.deed = none) : Held lately since v' := by
  obtain ⟨hidles, -, hmembers⟩ := hstep.idles haction
  refine ⟨hidles.state.trans_ne h.state, fun hm' hlive hin => ?_, fun hm' hchecking => ?_⟩
  · rcases hmembers hm' with ⟨-, hfirst⟩ | ⟨m, hm, -, hsame, halive⟩
    · rw [hfirst, firstActivity_idle.1] at hin
      cases hin
    · exact h.inside hm (halive hlive) (hsame ▸ hin)
  · rcases hmembers hm' with ⟨-, hfirst⟩ | ⟨m, hm, -, hsame, -⟩
    · rw [hfirst]
      exact firstActivity_idle.2
    · rw [hsame]
      exact h.gate hm ⟨hsame ▸ hchecking.1, hchecking.2⟩

/-- **A process performs an operation**: it resolves the recovery, or leaves it pending. -/
private lemma perform_kept (h : Held lately since v) (hstep : v.Step (.perform deed) v') :
    Resolved (deed :: lately) ∨ Held (deed :: lately) (deed :: since) v' := by
  obtain ⟨m, giveUp, hm, hlive, hpre, heffect, -, hmembers⟩ := hstep.performed
  obtain ⟨who, op, r⟩ := deed
  by_cases hready : Deed.moves ⟨who, op, r⟩ = some .ready
  · -- the report that is applied is a new one
    obtain ⟨hinside, -⟩ := inside_of_moves hready hpre
    exact .inl (Since.now ⟨hready, h.inside hm hlive hinside⟩)
  · right
    refine ⟨?_, fun {other m'} hm' hlive' hin => ?_, fun {other m'} hm' hchecking => ?_⟩
    · rw [heffect.state_dirty.1]
      rcases hmoves : Deed.moves ⟨who, op, r⟩ with _ | target
      · exact h.state
      · rintro rfl
        exact hready hmoves
    · rcases hmembers hm' with ⟨rfl, -, hnext⟩ | ⟨-, hm'⟩
      · rcases inside_next other (hnext ▸ hin) with hbegins | ⟨hin, -⟩
        · exact ⟨_, List.mem_cons_self, hbegins, rfl⟩
        · obtain ⟨began, hmem, hbegan⟩ := h.inside hm hlive hin
          exact ⟨began, List.mem_cons_of_mem _ hmem, hbegan⟩
      · obtain ⟨began, hmem, hbegan⟩ := h.inside hm' hlive' hin
        exact ⟨began, List.mem_cons_of_mem _ hmem, hbegan⟩
    · rcases hmembers hm' with ⟨rfl, -, hnext⟩ | ⟨hne, hm'⟩
      · rw [hnext]
        rcases hchecking.own hnext with hnow | hbefore
        · exact gate_looks hnow heffect h.state
        · by_cases hnow : Deed.looks ⟨other, op, r⟩ = true
          · exact gate_looks hnow heffect h.state
          · exact gate_next (Bool.eq_false_of_not_eq_true hnow) (h.gate hm hbefore)
      · exact h.gate hm' (hchecking.other hne)

/-- **A pending recovery, step by step.** -/
lemma kept (h : Held lately since v) (hstep : v.Step action v') :
    ∃ new, v'.history = new ++ v.history ∧
      (Resolved (new ++ lately) ∨ Held (new ++ lately) (new ++ since) v') := by
  cases action with
  | perform deed =>
    obtain ⟨_, _, _, _, _, _, hhistory, _⟩ := hstep.performed
    exact ⟨[deed], hhistory, h.perform_kept hstep⟩
  | start _ _ | leave _ =>
    exact ⟨[], (hstep.idles rfl).2.1, .inr (h.idle_kept hstep rfl)⟩

end Held

lemma Resolved.append (h : Resolved newer) : ∀ new : List (Deed R), Resolved (new ++ newer)
  | [] => h
  | _ :: new => (Resolved.append h new).later

/-- The recovery was resolved since, or is pending. -/
def Awaited (base : List (Deed R)) (v : View R) : Prop :=
  ∃ newer, v.history = newer ++ base ∧ (Resolved newer ∨ Held newer newer v)

lemma Awaited.kept {base : List (Deed R)} (h : Awaited base v) (hstep : v.Step action v') :
    Awaited base v' := by
  obtain ⟨newer, hnewer, hresolved | hheld⟩ := h
  · obtain ⟨new, hnew⟩ := hstep.history
    refine ⟨new ++ newer, ?_, .inl (hresolved.append new)⟩
    rw [hnew, hnewer, append_assoc]
  · obtain ⟨new, hnew, hcase⟩ := hheld.kept hstep
    refine ⟨new ++ newer, ?_, hcase⟩
    rw [hnew, hnewer, append_assoc]

/-- Right after a transition away from `READY` the recovery is pending, if nobody else is inside of
a reconciliation. -/
lemma held_of_moves {target : RuntimeState} (h : v.Step action v')
    (hhistory : v'.history = deed :: v.history) (hmoves : deed.moves = some target)
    (htarget : target ≠ .ready) :
    action = .perform deed ∧ ((∀ {other m}, v.members other = some m → m.live = true →
      m.activity.inside = true → other = deed.who) → Held [] [] v') := by
  rcases action.idle_or_perform with haction | ⟨deed', rfl⟩
  · exact absurd (hhistory.symm.trans (h.idles haction).2.1) (List.cons_ne_self _ _)
  · obtain ⟨m, giveUp, hm, -, -, heffect, hhistory', hmembers⟩ := h.performed
    obtain ⟨rfl, -⟩ := List.cons.inj (hhistory'.symm.trans hhistory)
    refine ⟨rfl, fun halone => ⟨?_, fun hm' hlive hin => ?_, fun _ hchecking => ?_⟩⟩
    · have hstate := heffect.state_dirty.1
      rw [hmoves, Option.getD_some] at hstate
      exact hstate.trans_ne htarget
    · rcases hmembers hm' with ⟨rfl, -, hnext⟩ | ⟨hne, hm'⟩
      · rcases inside_next deed'.who (hnext ▸ hin) with hbegins | ⟨-, -, hnone, -⟩
        · obtain ⟨who, op, r⟩ := deed'
          obtain rfl := op_of_begins hbegins
          cases hmoves
        · cases hmoves.symm.trans hnone
      · exact absurd (halone hm' hlive hin) hne
    · obtain ⟨-, e, he, -⟩ := hchecking
      cases he

/-! ## Until the streams are connected again -/

/-- Marking the streams as connected opens nothing: the state is not `READY`, nobody else is inside
of a reconciliation, and no check of the gate is about to look at the mark. -/
structure Calm (who : ℕ) (v : View R) : Prop where
  state : v.memory.state ≠ .ready
  inside : ∀ {other m}, v.members other = some m → m.live = true → m.activity.inside = true →
    other = who
  gate : ∀ {other m}, v.members other = some m → m.activity.exposing = true → m.activity.gate ≠ 1

/-- The streams are not connected yet, or they are and the recovery was resolved since, or is
pending. -/
def Severed (base : List (Deed R)) (v : View R) : Prop :=
  ∃ newer, v.history = newer ++ base ∧
    ((v.memory.connected = false ∧ (∀ e ∈ newer, e.connects = false) ∧
        ∀ {who m}, v.members who = some m → Checking newer who m → m.activity.gate ≤ 1) ∨
      ∃ lately reconnect older, newer = lately ++ reconnect :: older ∧ reconnect.connects = true ∧
        (∀ e ∈ older, e.connects = false) ∧ (Resolved lately ∨ Held lately newer v))

namespace Severed

variable {base newer : List (Deed R)} {deed : Deed R}

/-- The streams are marked as connected again: from here on the recovery is pending. -/
lemma reconnect_kept (hstep : v.Step (.perform deed) v') (hconnects : deed.connects = true)
    (hcalm : Calm deed.who v)
    (hgate : ∀ {who m}, v.members who = some m → Checking newer who m → m.activity.gate ≤ 1) :
    Held [] (deed :: newer) v' := by
  obtain ⟨m, giveUp, hm, -, -, heffect, -, hmembers⟩ := hstep.performed
  obtain ⟨who, op, r⟩ := deed
  obtain rfl := op_of_connects hconnects
  have hseen : ∀ {other m'}, v.members other = some m' → Checking newer other m' →
      m'.activity.gate = 0 := fun hm' hchecking => by
    have hle := hgate hm' hchecking
    have hne := hcalm.gate hm' hchecking.1
    omega
  refine ⟨?_, fun hm' hlive hin => ?_, fun hm' hchecking => ?_⟩
  · rw [heffect.state_dirty.1]
    exact hcalm.state
  · rcases hmembers hm' with ⟨rfl, -, hnext⟩ | ⟨hne, hm'⟩
    · rw [hnext] at hin
      cases hin
    · exact absurd (hcalm.inside hm' hlive hin) hne
  · rcases hmembers hm' with ⟨rfl, -, hnext⟩ | ⟨hne, hm'⟩
    · rw [hnext]
      exact hseen hm ((hchecking.own hnext).resolve_left nofun)
    · exact hseen hm' (hchecking.other hne)

/-- The streams stay disconnected. -/
lemma disconnected_kept (hstep : v.Step action v') (hconnected : v.memory.connected = false)
    (hoff : ∀ deed, action = .perform deed → deed.connects = false)
    (hgate : ∀ {who m}, v.members who = some m → Checking newer who m → m.activity.gate ≤ 1) :
    ∃ new, v'.history = new ++ v.history ∧ v'.memory.connected = false ∧
      (∀ e ∈ new, e.connects = false) ∧
      ∀ {who m}, v'.members who = some m → Checking (new ++ newer) who m → m.activity.gate ≤ 1 := by
  rcases action.idle_or_perform with haction | ⟨deed, rfl⟩
  · obtain ⟨hidles, hhistory, hmembers⟩ := hstep.idles haction
    refine ⟨[], hhistory, hidles.connected.trans hconnected, fun _ he => (by cases he), ?_⟩
    intro who m' hm' hchecking
    rcases hmembers hm' with ⟨-, hfirst⟩ | ⟨m, hm, -, hsame, -⟩
    · rw [hfirst, firstActivity_idle.2]
      exact Nat.zero_le _
    · rw [hsame]
      exact hgate hm ⟨hsame ▸ hchecking.1, hchecking.2⟩
  · obtain ⟨m, giveUp, hm, -, -, heffect, hhistory, hmembers⟩ := hstep.performed
    refine ⟨[deed], hhistory, connected_next heffect (hoff deed rfl) hconnected, ?_, ?_⟩
    · rintro e he
      rw [List.mem_singleton.mp he]
      exact hoff deed rfl
    · intro who m' hm' hchecking
      rcases hmembers hm' with ⟨rfl, -, hnext⟩ | ⟨hne, hm'⟩
      · rw [hnext]
        exact gate_disconnected heffect hconnected ((hchecking.own hnext).imp_right (hgate hm))
      · exact hgate hm' (hchecking.other hne)

/-- **Disconnected streams, step by step.** -/
lemma kept (h : Severed base v) (hstep : v.Step action v')
    (hcalm : ∀ deed, action = .perform deed → deed.connects = true → Calm deed.who v) :
    Severed base v' := by
  obtain ⟨newer, hnewer, ⟨hconnected, hnone, hgate⟩ | ⟨lately, reconnect, older, rfl,
    hconnects, hnone, hcase⟩⟩ := h
  · by_cases hreconnects : ∃ deed, action = .perform deed ∧ deed.connects = true
    · obtain ⟨deed, rfl, hconnects⟩ := hreconnects
      obtain ⟨_, _, _, _, _, _, hhistory, _⟩ := hstep.performed
      exact ⟨deed :: newer, by rw [hhistory, hnewer]; rfl, .inr ⟨[], deed, newer, rfl, hconnects,
        hnone, .inr (reconnect_kept hstep hconnects (hcalm deed rfl hconnects) hgate)⟩⟩
    · obtain ⟨new, hhistory, hoff, hnew, hgate⟩ := disconnected_kept hstep hconnected
        (fun deed h => Bool.eq_false_of_not_eq_true fun hconnects =>
          hreconnects ⟨deed, h, hconnects⟩) hgate
      refine ⟨new ++ newer, by rw [hhistory, hnewer, append_assoc], .inl ⟨hoff, ?_, hgate⟩⟩
      exact fun e he => (List.mem_append.mp he).elim (hnew e) (hnone e)
  · have hassoc : ∀ new : List (Deed R), new ++ (lately ++ reconnect :: older) =
        (new ++ lately) ++ reconnect :: older := fun new => (append_assoc ..).symm
    rcases hcase with hresolved | hheld
    · obtain ⟨new, hnew⟩ := hstep.history
      refine ⟨new ++ (lately ++ reconnect :: older), ?_, .inr ⟨new ++ lately, reconnect, older,
        hassoc new, hconnects, hnone, .inl (hresolved.append new)⟩⟩
      rw [hnew, hnewer, ← append_assoc]
    · obtain ⟨new, hnew, hcase⟩ := hheld.kept hstep
      refine ⟨new ++ (lately ++ reconnect :: older), ?_, .inr ⟨new ++ lately, reconnect, older,
        hassoc new, hconnects, hnone, hcase⟩⟩
      rw [hnew, hnewer, ← append_assoc]

end Severed

/-! ## Runs -/

section

variable {side : RiskSide R} {scope : RuntimeScope} {port : RiskPort R}

/-- No other process than `who` is inside of a reconciliation of coordinator `k`: none has begun one
whose report it has neither applied nor dropped. -/
def aloneInside (k who : ℕ) (c : (Timeline side scope port).Config) : Bool :=
  (List.range c.threads.length).all fun other => (memberAt k c other).all fun m =>
    decide (other = who) || !(m.live && m.activity.inside)

/-- Process `who` can mark the streams of coordinator `k` as connected without opening anything. -/
def calmBefore (k who : ℕ) (c : (Timeline side scope port).Config) : Bool :=
  (c.state.state.coordinators[k]?.all fun i => decide (i.state ≠ .ready)) && aloneInside k who c &&
    (List.range c.threads.length).all fun other => (memberAt k c other).all fun m =>
      !(m.activity.exposing && m.activity.gate == 1)

/-- **Reconnecting opens nothing**: the streams of coordinator `k` are marked as connected only
while its state is not `READY`, nobody else is inside of a reconciliation, and no check of the gate
has just seen `READY`. -/
def reconnectsHeld (k : ℕ) (c : (Timeline side scope port).Config) :
    (Timeline side scope port).Label → Bool
  | .run who _ =>
    match c.threads[who]? with
    | some (site, .call (.inl (.inl (.inl (.volatile (.storeConnected true))))) _) =>
      decide (Site.coordinator site ≠ k) || calmBefore k who c
    | _ => true
  | _ => true

variable {k : ℕ} {c : (Timeline side scope port).Config}
  {label : (Timeline side scope port).Label} {v : View R}

/-- What every process of a coordinator satisfies. -/
lemma member_of_all {good : ℕ → Member → Bool}
    (h : ((List.range c.threads.length).all fun who => (memberAt k c who).all (good who)) = true)
    {who : ℕ} {m : Member} (hm : memberAt k c who = some m) : good who m = true := by
  obtain ⟨program, hthread, -⟩ := memberAt_eq_some hm
  have hgood := List.all_eq_true.mp h who
    (List.mem_range.mpr (List.getElem?_eq_some_iff.mp hthread).1)
  rw [hm] at hgood
  exact hgood

lemma eq_of_aloneInside {who other : ℕ} {m : Member} (h : aloneInside k who c = true)
    (hm : memberAt k c other = some m) (hlive : m.live = true)
    (hinside : m.activity.inside = true) :
    other = who := by
  have hgood := member_of_all h hm
  rw [hlive, hinside, Bool.or_eq_true, decide_eq_true_eq] at hgood
  exact hgood.resolve_right Bool.false_ne_true

lemma calm_of_reconnectsHeld (h : reconnectsHeld k c label = true)
    (hv : viewAt k c = some v) (hshows : (Action.perform deed).Shows k c label)
    (hconnects : deed.connects = true) : Calm deed.who v := by
  obtain ⟨who, op, r⟩ := deed
  obtain rfl := op_of_connects hconnects
  obtain ⟨choice, site, next, rfl, hthread, hk⟩ := hshows
  obtain ⟨i, hi, rfl⟩ := viewAt_eq_some hv
  simp only [reconnectsHeld, hthread, hk, ne_eq, not_true_eq_false, decide_false, Bool.false_or,
    calmBefore, hi, Option.all_some, Bool.and_eq_true, decide_eq_true_eq] at h
  obtain ⟨⟨hstate, halone⟩, hchecks⟩ := h
  refine ⟨hstate, fun hm hlive hinside => eq_of_aloneInside halone hm hlive hinside,
    fun {other m} hm hexposing hgate => ?_⟩
  have hnot := member_of_all hchecks hm
  rw [hexposing, hgate] at hnot
  cases hnot

/-- The gate is open, or a command that can add exposure was let through by a check that looked at
the state lately. -/
def GatePasses (k : ℕ) (c : (Timeline side scope port).Config) (newer : List (Deed R)) : Prop :=
  (∃ i, c.state.state.coordinators[k]? = some i ∧ i.gateOpen) ∨
    ∃ who m, memberAt k c who = some m ∧ Checking newer who m ∧ m.activity.gate = 4

/-- A held gate lets nothing pass. -/
lemma Held.closed {lately since : List (Deed R)} {i : Instance}
    (hi : c.state.state.coordinators[k]? = some i)
    (h : Held lately since ⟨i, memberAt k c, deedsAt k c.state.trace⟩) :
    ¬ GatePasses k c since := by
  rintro (⟨i', hi', hopen⟩ | ⟨who, m, hm, hchecking, hgate⟩)
  · cases hi'.symm.trans hi
    exact h.state hopen.1
  · have := h.gate hm hchecking
    omega

end

section

variable {side : RiskSide R} {scope : RuntimeScope} {port : RiskPort R} {k who : ℕ}
  {c₁ c₂ : (Timeline side scope port).Config} {choice : Choice side.Choice} {deed : Deed R}
  {target : RuntimeState} {i₂ : Instance}

/-- Right after a transition away from `READY` at which nobody else is inside of a reconciliation
the recovery is pending. -/
lemma held_of_trigger (horderly : Orderly c₁) (htrigger : TracedStep c₁ (.run who choice) c₂)
    (hdeed : deedsAt k c₂.state.trace = deed :: deedsAt k c₁.state.trace)
    (hmoves : deed.moves = some target) (htarget : target ≠ .ready)
    (halone : aloneInside k who c₁ = true)
    (hi₂ : c₂.state.state.coordinators[k]? = some i₂) :
    Held [] [] (⟨i₂, memberAt k c₂, deedsAt k c₂.state.trace⟩ : View R) := by
  have hv₂ : viewAt k c₂ = some ⟨i₂, memberAt k c₂, deedsAt k c₂.state.trace⟩ := by
    simp only [viewAt, hi₂, map_some]
  rcases hv₁ : viewAt k c₁ with _ | v₁
  · have hnew := congrArg View.history (view_new horderly htrigger hv₁ hv₂)
    cases hdeed.symm.trans hnew
  obtain ⟨v, hv, hcase⟩ := view_step horderly htrigger hv₁
  cases hv.symm.trans hv₂
  obtain ⟨i₁, -, rfl⟩ := viewAt_eq_some hv₁
  rcases hcase with hsame | ⟨action, hshows, hstep⟩
  · have hhistory := congrArg View.history hsame
    exact absurd (hdeed.symm.trans hhistory) (List.cons_ne_self _ _)
  · obtain ⟨rfl, hheld⟩ := held_of_moves hstep hdeed hmoves htarget
    obtain ⟨_, _, _, hlabel, -⟩ := hshows
    obtain rfl : who = deed.who := (Label.run.inj hlabel).1
    exact hheld fun hm hlive hinside => eq_of_aloneInside halone hm hlive hinside

end

section

variable (side : RiskSide R) (scope : RuntimeScope) (port : RiskPort R)

/-- **The gate is closed while a recovery is pending.** A process of a coordinator moves the state
away from `READY`, while no other process is inside of a reconciliation. Whenever the gate is open
afterwards, or has let a command that can add exposure pass by a check that looked at the state
after that transition, a reconciliation that was begun after the transition has been applied. If the
streams were marked as not connected at that time, as they are in a gap, and reconnecting opens
nothing by itself, then it was begun after they were connected again.

**Proof sketch.** The runtime gets `READY` by applying a report only. After the transition nobody
has a report that was begun before it, and as long as no later one is applied the state is not
`READY`, so that checks that look at it fail. The same holds from the reconnect on. -/
theorem gate_closed_until_resolved (hport : port.Quiet)
    {c₀ c₁ c₂ c₃ : (Timeline side scope port).Config} (hthreads : c₀.threads = [])
    (htrace : c₀.state.trace = []) (hbefore : Reach (fun _ _ => True) c₀ c₁) {k who : ℕ}
    {choice : Choice side.Choice} (htrigger : c₁.step (.run who choice) = some c₂) {deed : Deed R}
    (hdeed : deedsAt k c₂.state.trace = deed :: deedsAt k c₁.state.trace) {target : RuntimeState}
    (hmoves : deed.moves = some target) (htarget : target ≠ .ready)
    (halone : aloneInside k who c₁ = true)
    {good : (Timeline side scope port).Condition}
    (hlater : Reach good c₂ c₃) {i₂ i₃ : Instance}
    (hi₂ : c₂.state.state.coordinators[k]? = some i₂)
    (hi₃ : c₃.state.state.coordinators[k]? = some i₃) :
    ∃ newer, deedsAt k c₃.state.trace = newer ++ deedsAt k c₂.state.trace ∧
      (GatePasses k c₃ newer → Resolved newer ∧
        ((∀ c label, good c label → reconnectsHeld k c label = true) → i₂.connected = false →
          ∃ lately reconnect older, newer = lately ++ reconnect :: older ∧
            reconnect.connects = true ∧ (∀ e ∈ older, e.connects = false) ∧ Resolved lately)) := by
  have hstep := tracedStep_of_step htrigger
  have htrue : ∀ {c c' : (Timeline side scope port).Config} {label}, Orderly c → True → True →
      TracedStep c label c' → True := fun _ _ _ _ => trivial
  obtain ⟨horderly₁, -⟩ := timeline_reach hport htrue (.of_nil hthreads htrace) trivial hbefore
  obtain ⟨horderly₂, -⟩ := timeline_reach hport htrue (.of_nil hthreads htrace) trivial
    (.step _ hbefore trivial htrigger)
  have hheld := held_of_trigger horderly₁ hstep hdeed hmoves htarget halone hi₂
  have hv₂ : viewAt k c₂ = some ⟨i₂, memberAt k c₂, deedsAt k c₂.state.trace⟩ := by
    simp only [viewAt, hi₂, map_some]
  have hv₃ : viewAt k c₃ = some ⟨i₃, memberAt k c₃, deedsAt k c₃.state.trace⟩ := by
    simp only [viewAt, hi₃, map_some]
  have hthere : viewAt k c₂ ≠ none := fun hnone => by
    cases hv₂.symm.trans hnone
  -- with the streams left aside
  obtain ⟨-, hawaited⟩ := view_reach hport (Awaited (deedsAt k c₂.state.trace))
    (fun hnone => absurd hnone hthere)
    (fun _ _ _ _ _ hview h => h.kept hview) horderly₂
    (fun v hv => by
      cases hv.symm.trans hv₂
      exact ⟨[], rfl, .inr hheld⟩) hlater
  obtain ⟨newer, hnewer, hcase⟩ := hawaited _ hv₃
  refine ⟨newer, hnewer, fun hpasses => ⟨hcase.resolve_right fun hheld => hheld.closed hi₃ hpasses,
    fun hreconnects hgap => ?_⟩⟩
  -- and from the reconnect on
  obtain ⟨-, hsevered⟩ := view_reach hport (Severed (deedsAt k c₂.state.trace))
    (fun hnone => absurd hnone hthere)
    (fun hgood _ hv _ hshows hview h => h.kept hview fun deed haction hconnects => by
      subst haction
      exact calm_of_reconnectsHeld (hreconnects _ _ hgood) hv hshows hconnects) horderly₂
    (fun v hv => by
      cases hv.symm.trans hv₂
      refine ⟨[], rfl, .inl ⟨hgap, fun e he => (by cases he), fun _ hchecking => ?_⟩⟩
      obtain ⟨-, e, he, -⟩ := hchecking
      cases he) hlater
  obtain ⟨newer', hnewer', hsince⟩ := hsevered _ hv₃
  obtain rfl : newer' = newer := List.append_cancel_right (hnewer'.symm.trans hnewer)
  rcases hsince with ⟨hconnected, -, hgate⟩ | ⟨lately, reconnect, older, heq,
    hconnects, hnone, hcase⟩
  · -- nothing passes before the reconnect
    rcases hpasses with ⟨i, hi, hopen⟩ | ⟨other, m, hm, hchecking, hpassed⟩
    · cases hi.symm.trans hi₃
      exact absurd (hconnected.symm.trans hopen.2.1) Bool.false_ne_true
    · have := hgate hm hchecking
      omega
  · exact ⟨lately, reconnect, older, heq, hconnects, hnone,
      hcase.resolve_right fun hheld => hheld.closed hi₃ hpasses⟩

end

/-! ## A stale report -/

/-- A reconciliation has made its report, another one is applied, and an overflow is reported. -/
def staleReport : List (Timeline approvingSide fixtureScope approvingPort).Label :=
  .start (0, .forceReconciliation .reconciliationStarted "operator") ::
    replicate 23 (.run 0 (plainChoice ())) ++
  .start (0, .forceReconciliation .reconciliationStarted "operator") ::
    replicate 29 (.run 1 (plainChoice ())) ++
  .start (0, .reportStreamOverflow) :: replicate 2 (.run 2 (plainChoice ()))

lemma not_resolved_of_all (h : newer.all (fun e => !e.begins) = true) : ¬ Resolved newer := by
  rintro ⟨newest, applied, older, rfl, ⟨-, began, hbegan, hbegins, -⟩, -⟩
  have hnot := List.all_eq_true.mp h began (List.mem_append_right _ (List.mem_cons_of_mem _ hbegan))
  rw [hbegins] at hnot
  cases hnot

/-- **A report that was made before an overflow opens the gate.** The overflow moves the runtime to
`RECONCILING`. Then the report is applied, and the gate is open, although no reconciliation was
begun after the overflow. -/
theorem stale_report_opens_gate : ∃ c₁ c₂ c₃ deed newer i, readyTimeline.run staleReport = some c₁ ∧
      c₁.step (.run 2 (plainChoice ())) = some c₂ ∧
      deedsAt 0 c₂.state.trace = deed :: deedsAt 0 c₁.state.trace ∧
      deed.moves = some .reconciling ∧
      c₂.run (replicate 3 (.run 2 (plainChoice ())) ++
        replicate 6 (.run 0 (plainChoice ()))) = some c₃ ∧
      deedsAt 0 c₃.state.trace = newer ++ deedsAt 0 c₂.state.trace ∧ ¬ Resolved newer ∧
      c₃.state.state.coordinators[0]? = some i ∧ i.gateOpen := by
  obtain ⟨c₁, hc₁, c₂, hc₂, hlength₂, hmoves, c₃, hc₃, hlength₃, hbegins, i, hi, hopen⟩ :
      ∃ c₁, readyTimeline.run staleReport = some c₁ ∧
      ∃ c₂, c₁.step (.run 2 (plainChoice ())) = some c₂ ∧
        (deedsAt 0 c₂.state.trace).length = 1 + (deedsAt 0 c₁.state.trace).length ∧
        (deedsAt 0 c₂.state.trace).head?.bind Deed.moves = some .reconciling ∧
      ∃ c₃, c₂.run (replicate 3 (.run 2 (plainChoice ())) ++
          replicate 6 (.run 0 (plainChoice ()))) = some c₃ ∧
        (deedsAt 0 c₃.state.trace).length = 9 + (deedsAt 0 c₂.state.trace).length ∧
        (((deedsAt 0 c₃.state.trace).take 9).all fun e => !e.begins) = true ∧
      ∃ i, c₃.state.state.coordinators[0]? = some i ∧ i.gateOpen := by
    decide +kernel
  have hsince₃ := deedsAt_since (Config.reach_of_run hc₃) hlength₃
  obtain ⟨deed, hdeed⟩ := deedsAt_step hc₂ hlength₂
  rw [hdeed] at hmoves
  exact ⟨c₁, c₂, c₃, deed, _, i, hc₁, hc₂, hdeed, hmoves, hc₃, hsince₃, not_resolved_of_all hbegins,
    hi, hopen⟩

/-- A gap that is recovered while nothing else goes on: the gate opens after the streams are
connected again and a reconciliation that was begun after that is applied. -/
theorem gap_closes_gate_until_reconnected :
    ∃ c₁ c₂ c₃ deed newer i, newTimeline.run (firstSignal (.gap .portfolio "gap") ++
        replicate 3 (.run 1 (plainChoice ()))) = some c₁ ∧
      c₁.step (.run 1 (plainChoice ())) = some c₂ ∧
      deedsAt 0 c₂.state.trace = deed :: deedsAt 0 c₁.state.trace ∧
      deed.moves = some .reconciling ∧
      c₂.runIf (fun c label => reconnectsHeld 0 c label = true)
        (replicate 44 (.run 1 (plainChoice ()))) = some c₃ ∧
      c₃.state.state.coordinators[0]? = some i ∧ i.gateOpen ∧
      deedsAt 0 c₃.state.trace = newer ++ deedsAt 0 c₂.state.trace ∧ Resolved newer ∧
      ∃ lately reconnect older, newer = lately ++ reconnect :: older ∧ reconnect.connects = true ∧
        (∀ e ∈ older, e.connects = false) ∧ Resolved lately := by
  obtain ⟨c₁, hc₁, halone, c₂, hc₂, hlength, hmoves, i₂, hi₂, hconnected, c₃, hc₃, i, hi, hopen⟩ :
      ∃ c₁, newTimeline.run (firstSignal (.gap .portfolio "gap") ++
        replicate 3 (.run 1 (plainChoice ()))) = some c₁ ∧ aloneInside 0 1 c₁ = true ∧
      ∃ c₂, c₁.step (.run 1 (plainChoice ())) = some c₂ ∧
        (deedsAt 0 c₂.state.trace).length = 1 + (deedsAt 0 c₁.state.trace).length ∧
        (deedsAt 0 c₂.state.trace).head?.bind Deed.moves = some .reconciling ∧
      ∃ i₂, c₂.state.state.coordinators[0]? = some i₂ ∧ i₂.connected = false ∧
      ∃ c₃, c₂.runIf (fun c label => reconnectsHeld 0 c label = true)
        (replicate 44 (.run 1 (plainChoice ()))) = some c₃ ∧
      ∃ i, c₃.state.state.coordinators[0]? = some i ∧ i.gateOpen := by
    decide +kernel
  obtain ⟨deed, hdeed⟩ := deedsAt_step hc₂ hlength
  rw [hdeed] at hmoves
  obtain ⟨newer, hnewer, hpasses⟩ := gate_closed_until_resolved approvingSide fixtureScope
    approvingPort approvingPort_quiet rfl rfl (Config.reach_of_run hc₁) hc₂ hdeed hmoves
    RuntimeState.noConfusion halone (Config.reach_of_runIf hc₃) hi₂ hi
  obtain ⟨hresolved, hgap⟩ := hpasses (.inl ⟨i, hi, hopen⟩)
  exact ⟨c₁, c₂, c₃, deed, newer, i, hc₁, hc₂, hdeed, hmoves, hc₃, hi, hopen, hnewer, hresolved,
    hgap (fun _ _ hgood => hgood) hconnected⟩

end VoxTrader.Runtime
