import VoxTrader.Runtime.OneCoordinator

/-!
# Coalesced refreshes

Capital changes come in bursts, and one reconciliation answers all the requests that came before it
began. A request marks the coordinator as dirty and tries to claim the refresh; who gets the claim
moves the state to `RECONCILING` and spawns a loop, which passes the claim on to nobody until it has
applied a report, and then looks at the mark again.

This module follows the claim and the mark through any interleaving of any number of requests with
the loops they spawn. Store faults and calls that are dropped are included.

## Main definitions

* `ClaimHeld` — the claim is held by one process, or by the loop that is spawned.
* `Covered` — the last report that was applied comes from a reconciliation that began after every
  request.

## Main results

* `coalesced_refresh_loses_no_request` — a coordinator that is `READY` and not dirty has answered
  every request, and one process at most is inside a reconciliation.
-/

namespace VoxTrader.Runtime

/-! ## The claim -/

variable {R : Interface}

/-- One process has the claim, or a loop is spawned that has it; then the refresh is marked as
running. -/
abbrev ClaimHeld (v : View R) : Prop := Exclusive Role.claims .coalescedReconciliation (·.running) v

/-- Those who take part in refreshes, and in nothing else. -/
def Role.refreshes : Role → Bool
  | caller | refreshing caller _ | loop _ | released => true
  | _ => false

/-- Every process takes part in refreshes only. -/
def Refreshers (v : View R) : Prop :=
  ∀ ⦃who m⦄, v.members who = some m → m.activity.role.refreshes = true

/-- Requests for a refresh, and the loops. -/
def Job.refreshes : Job → Bool
  | requestCoalescedReconciliation _ _ | task .coalescedReconciliation _ => true
  | _ => false

variable {op : (full R).Op}

section

variable {v v' : View R} {action : Action R}

lemma turn_refreshes {r : (full R).Res op} {role role' : Role}
    (h : Turn op r role role') (hrole : role.refreshes = true) : role'.refreshes = true := by
  cases h with
  | startFirst | startAgain | publish | handOver | acquire _ => cases hrole
  | claim hasks =>
    cases role with
    | caller | released => rfl
    | worker => cases hrole
    | _ => cases hasks
  | spawnLoop =>
    cases role' with
    | caller => rfl
    | _ => cases hrole
  | release => rfl
  | settle _ _ =>
    cases role with
    | refreshing back =>
      cases back with
      | caller => rfl
      | _ => cases hrole
    | loop => rfl
    | _ => exact hrole
  | stay _ | beside _ => exact hrole

lemma Refreshers.kept (h : Refreshers v) (hstep : v.Step action v')
    (hjobs : ∀ who job, action = .start who job → job.refreshes = true) : Refreshers v' := by
  rcases action.idle_or_perform with haction | ⟨deed, rfl⟩
  · intro who m hm
    rcases (hstep.idles haction).2.2 hm with ⟨hstart, hfirst⟩ | ⟨m₀, hm₀, -, hsame, -⟩
    · rw [hfirst]
      have hjob := hjobs _ _ hstart
      generalize m.job = job at hjob
      cases job with
      | requestCoalescedReconciliation => rfl
      | task task =>
        cases task with
        | streamWorker => cases hjob
        | coalescedReconciliation => rfl
      | _ => cases hjob
    · exact hsame ▸ h hm₀
  · obtain ⟨m₀, giveUp, hm₀, -, hpre, -, -, hmembers⟩ := hstep.performed
    intro who m hm
    rcases hmembers hm with ⟨rfl, -, hnext⟩ | ⟨-, hm⟩
    · exact hnext ▸ turn_refreshes (turn_of_pre hpre) (h hm₀)
    · exact h hm

/-- Who refreshes and may move the state has the claim. -/
lemma Role.claims_of_refreshes {role : Role} (h : role.refreshes = true)
    (hclaim : role.unclaimed = false) : role.claims = true := by
  cases role with
  | caller | released => cases hclaim
  | refreshing _ _ | loop _ => rfl
  | _ => cases h

end

namespace ClaimHeld

variable {v v' : View R} {action : Action R}

/-- What an operation does to the claim. -/
private lemma passes {who : ℕ} {giveUp : Bool} {r : (full R).Res op}
    {role role' : Role} {i i' : Instance} (hrole : role.refreshes = true)
    (hturn : Turn op r role role') (heffect : Effect who giveUp op r i i') :
    Passes Role.claims .coalescedReconciliation (·.running) role role' i i' := by
  cases hturn with
  | startFirst | startAgain | publish | handOver | acquire _ => cases hrole
  | claim =>
    obtain ⟨rfl, hclaimed⟩ := Option.pair_inj heffect.exec
    exact .take ((Bool.not_eq_true' _).mp hclaimed) le_rfl rfl
  | spawnLoop =>
    cases heffect.exec
    refine .hand rfl (fun hclaims => ?_) List.count_append.le rfl
    cases role' with
    | refreshing _ _ | loop _ => cases hrole
    | _ => cases hclaims
  | release =>
    cases heffect.exec
    exact .drop rfl nofun le_rfl
  | settle hresult =>
    obtain rfl := exec_moveState hresult heffect.exec
    exact .keep (Role.claims_settle ▸ ·) le_rfl rfl
  | stay hop =>
    obtain ⟨-, hrunning, hcount⟩ := exec_stay hop heffect.exec
    exact .keep id (hcount _) hrunning
  | beside hop =>
    obtain rfl := heffect.eq hop
    exact .keep id le_rfl rfl

/-- **The claim, step by step.** -/
lemma kept (h : ClaimHeld v) (hrefresh : Refreshers v) (hstep : v.Step action v') :
    ClaimHeld v' := by
  rcases action.idle_or_perform with haction | ⟨deed, rfl⟩
  · exact h.idle_kept firstActivity_claims Instance.Idles.running hstep haction
  · exact h.perform_kept hstep fun hm => passes (hrefresh hm)

end ClaimHeld

/-! ## The state while a refresh is on its way -/

/-- Those for whose refresh the state was moved away from `READY`. -/
def Role.passing : Role → Bool
  | refreshing _ moved | loop moved => moved
  | _ => false

lemma Role.claims_of_passing {role : Role} (h : role.passing = true) : role.claims = true := by
  cases role with
  | refreshing _ _ | loop _ => rfl
  | _ => cases h

/-- An operation that changes no role moves no state. -/
lemma moves_of_stay {op : Volatile} {r : op.Res} {who : ℕ} (hop : op.turns r = false) :
    Deed.moves (R := R) ⟨who, .inl (.inl (.inl (.volatile op))), r⟩ = none := by
  cases op with
  | moveState =>
    cases r with
    | error => rfl
    | ok => cases hop
  | _ => rfl

/-- While a refresh is on its way the runtime is not `READY`. -/
structure Away (v : View R) : Prop where
  passing : ∀ {who m}, v.members who = some m → m.activity.role.passing = true →
    v.memory.state ≠ .ready
  spawned : 0 < v.memory.spawned.count .coalescedReconciliation → v.memory.state ≠ .ready

namespace Away

variable {v v' : View R} {action : Action R}

lemma new : Away (View.new : View R) where
  passing hm := by cases hm
  spawned h := absurd h (Nat.lt_irrefl 0)

/-- A process performs an operation. -/
private lemma perform_kept (h : Away v) (hclaim : ClaimHeld v) (hrefresh : Refreshers v)
    {deed : Deed R} (hstep : v.Step (.perform deed) v') : Away v' := by
  obtain ⟨m, giveUp, hm, hlive, hpre, heffect, -, hmembers⟩ := hstep.performed
  obtain ⟨who, op, r⟩ := deed
  obtain ⟨memory, members, history⟩ := v'
  have hstate := heffect.state_dirty.1
  have hpasses := h.passing hm
  have hkept : memory.state = v.memory.state →
      (((activityDiscipline R).next op r m.activity).role.passing = true →
        m.activity.role.passing = true) →
      (0 < memory.spawned.count .coalescedReconciliation → v.memory.state ≠ .ready) →
      Away (⟨memory, members, history⟩ : View R) := by
    intro hsame hself hspawned
    refine ⟨fun {other m'} hm' hpassing => hsame.trans_ne ?_, fun hpos =>
      hsame.trans_ne (hspawned hpos)⟩
    rcases hmembers hm' with ⟨rfl, -, hnext⟩ | ⟨-, hm'⟩
    · exact hpasses (hself (hnext ▸ hpassing))
    · exact h.passing hm' hpassing
  have hrole := hrefresh hm
  have hturn := turn_of_pre (r := r) hpre
  generalize hbefore : m.activity.role = role at hturn hkept hrole hpasses
  generalize hafter : ((activityDiscipline R).next op r m.activity).role = role' at hturn hkept
  cases hturn with
  | startFirst | startAgain | publish | handOver | acquire _ => cases hrole
  | claim =>
    obtain ⟨rfl, -⟩ := Option.pair_inj heffect.exec
    refine hkept rfl (fun hpassing => ?_) h.spawned
    cases role <;> cases hpassing
  | spawnLoop =>
    cases heffect.exec
    exact hkept rfl (fun _ => rfl) fun _ => hpasses rfl
  | release =>
    cases heffect.exec
    exact hkept rfl (nofun) h.spawned
  | @settle target result role hresult hunclaimed =>
    -- the only one who has the claim moves the state
    obtain rfl := exec_moveState hresult heffect.exec
    have hclaims : m.activity.role.claims = true := by
      rw [hbefore]
      exact Role.claims_of_refreshes hrole hunclaimed
    refine ⟨fun {other m'} hm' hpassing => ?_, fun hpos => ?_⟩
    · rcases hmembers hm' with ⟨rfl, -, hnext⟩ | ⟨hne, hm'⟩
      · rw [hnext, hafter] at hpassing
        cases role with
        | refreshing _ _ | loop _ => exact of_decide_eq_true hpassing
        | _ => cases hpassing
      · exact absurd (hclaim.unique hm' (Role.claims_of_passing hpassing) hm hclaims) hne
    · exact absurd hpos (by rw [(hclaim.handed hm hclaims).1]; exact Nat.lt_irrefl 0)
  | stay hop =>
    obtain ⟨-, -, hcount⟩ := exec_stay hop heffect.exec
    rw [moves_of_stay hop] at hstate
    exact hkept hstate id fun hpos => h.spawned (lt_of_lt_of_le hpos (hcount _))
  | beside hop =>
    obtain rfl := heffect.eq hop
    exact hkept rfl id h.spawned

/-- **The state, step by step.** -/
lemma kept (h : Away v) (hclaim : ClaimHeld v) (hrefresh : Refreshers v)
    (hstep : v.Step action v') : Away v' := by
  rcases action.idle_or_perform with haction | ⟨deed, rfl⟩
  · obtain ⟨hidles, -, hmembers⟩ := hstep.idles haction
    refine ⟨fun {who m} hm hpassing => hidles.state.trans_ne ?_, fun hpos =>
      hidles.state.trans_ne (h.spawned (lt_of_lt_of_le hpos (hidles.spawned _)))⟩
    rcases hmembers hm with ⟨rfl, hfirst⟩ | ⟨m₀, hm₀, -, hsame, -⟩
    · -- a loop that begins was spawned
      rw [hfirst] at hpassing
      obtain ⟨passes, hjob⟩ := firstActivity_claims (Role.claims_of_passing hpassing)
      rw [hjob] at hstep
      exact h.spawned (List.count_pos_iff.mpr hstep.begun.1)
    · exact h.passing hm₀ (hsame ▸ hpassing)
  · exact h.perform_kept hclaim hrefresh hstep

end Away

/-! ## Requests that are answered -/

/-- Process `who` has begun a reconciliation, and no request came since. -/
def BegunSince (who : ℕ) (history : List (Deed R)) : Prop :=
  Since (fun began _ => began.begins = true ∧ began.who = who)
    (fun e => e.marks ≠ some true ∧ (e.begins = true → e.who ≠ who)) history

/-- **Every request is answered**: nothing was asked or applied yet, or the last report that was
applied comes from a reconciliation that its process began after every request. -/
def Covered (history : List (Deed R)) : Prop :=
  (∀ e ∈ history, e.marks ≠ some true ∧ e.moves = none) ∨
    Since (fun applied older => applied.moves = some .ready ∧ BegunSince applied.who older)
      (fun e => e.marks ≠ some true ∧ e.moves = none) history

/-- Something that is neither a request nor a transition changes nothing about that. -/
lemma Covered.later {history : List (Deed R)} {e : Deed R} (h : Covered history)
    (hmarks : e.marks ≠ some true) (hmoves : e.moves = none) : Covered (e :: history) := by
  rcases h with hnothing | hsince
  · refine .inl fun e' he' => ?_
    rcases List.mem_cons.mp he' with rfl | he'
    · exact ⟨hmarks, hmoves⟩
    · exact hnothing e' he'
  · exact .inr (hsince.later ⟨hmarks, hmoves⟩)

/-- Who is inside of a reconciliation has the claim and began after every request, and the state is
`READY` after such a reconciliation only; or the mark of a request is set. -/
structure Answered (v : View R) : Prop where
  claims : ∀ {who m}, v.members who = some m → m.live = true → m.activity.inside = true →
    m.activity.role.claims = true
  begun : ∀ {who m}, v.members who = some m → m.live = true → m.activity.inside = true →
    v.memory.dirty = true ∨ BegunSince who v.history
  ready : v.memory.state = .ready → v.memory.dirty = true ∨ Covered v.history

namespace Answered

variable {v v' : View R} {action : Action R}

section

variable {who : ℕ} {op : (full R).Op} {r : (full R).Res op} {a : Activity}

lemma role_of_marks (h : Deed.marks ⟨who, op, r⟩ = some false)
    (hpre : (activityDiscipline R).pre op a) : a.role = .loop true := by
  unfold Deed.marks at h
  split at h
  · rename_i heq
    cases heq
    exact hpre (Option.some.inj h)
  · cases h

lemma marks_eq_none {e : Deed R} (hfalse : e.marks ≠ some false)
    (htrue : e.marks ≠ some true) : e.marks = none := by
  rcases hmarks : e.marks with _ | _ | _
  · rfl
  · exact absurd hmarks hfalse
  · exact absurd hmarks htrue

/-- What has begun since the last request has, or there is a new request. -/
lemma begun_later {e : Deed R} {other : ℕ} {history : List (Deed R)} {dirty dirty' : Bool}
    (hdirty : dirty' = e.marks.getD dirty) (hmarks : e.marks ≠ some false)
    (hbegins : e.begins = true → e.who ≠ other)
    (h : dirty = true ∨ BegunSince other history) :
    dirty' = true ∨ BegunSince other (e :: history) := by
  by_cases hcalls : e.marks = some true
  · exact .inl (hdirty.trans (by rw [hcalls]; rfl))
  · rw [marks_eq_none hmarks hcalls, Option.getD_none] at hdirty
    exact h.imp hdirty.trans fun hbegun => hbegun.later ⟨hcalls, hbegins⟩

end

/-- Who is inside after an operation still has the claim. -/
lemma claims_next {r : (full R).Res op} {a : Activity}
    (hpre : (activityDiscipline R).pre op a) (hrole : a.role.refreshes = true)
    (hclaims : a.inside = true → a.role.claims = true)
    (hinside : ((activityDiscipline R).next op r a).inside = true) :
    ((activityDiscipline R).next op r a).role.claims = true := by
  rcases inside_next 0 hinside with hbegins | ⟨hbefore, -⟩
  · obtain rfl := op_of_begins hbegins
    exact Role.claims_of_refreshes hrole hpre
  · have hclaims := hclaims hbefore
    have hturn := turn_of_pre (r := r) hpre
    generalize a.role = role at hturn hclaims
    generalize ((activityDiscipline R).next op r a).role = role' at hturn ⊢
    cases hturn with
    | startFirst | startAgain | publish | handOver | acquire _ => cases hclaims
    | claim => cases role <;> rfl
    | spawnLoop | release => cases hinside
    | settle =>
      rw [Role.claims_settle]
      exact hclaims
    | stay _ | beside _ => exact hclaims

/-- A process performs an operation. -/
private lemma perform_kept (h : Answered v) (hclaim : ClaimHeld v) (haway : Away v)
    (hrefresh : Refreshers v) {deed : Deed R} (hstep : v.Step (.perform deed) v') :
    Answered v' := by
  obtain ⟨m, giveUp, hm, hlive, hpre, heffect, hhistory, hmembers⟩ := hstep.performed
  obtain ⟨who, op, r⟩ := deed
  obtain ⟨memory, members, history⟩ := v'
  subst hhistory
  obtain ⟨hstate, hdirty⟩ := heffect.state_dirty
  refine ⟨fun {other m'} hm' hlive' hinside => ?_, fun {other m'} hm' hlive' hinside => ?_,
    fun hready => ?_⟩
  · rcases hmembers hm' with ⟨rfl, -, hnext⟩ | ⟨-, hm'⟩
    · rw [hnext]
      exact claims_next hpre (hrefresh hm) (h.claims hm hlive) (hnext ▸ hinside)
    · exact h.claims hm' hlive' hinside
  · rcases hmembers hm' with ⟨rfl, -, hnext⟩ | ⟨hne, hm'⟩
    · rcases inside_next other (hnext ▸ hinside) with hbegins | ⟨hin, hbegins, -, hmarks⟩
      · exact .inr (Since.now ⟨hbegins, rfl⟩)
      · refine begun_later hdirty hmarks (fun hb => ?_) (h.begun hm hlive hin)
        exact absurd (hbegins.symm.trans hb) Bool.false_ne_true
    · -- only the one who has the claim takes the mark away
      have hmarks : Deed.marks ⟨who, op, r⟩ ≠ some false := by
        intro hmarks
        have hrole := role_of_marks hmarks hpre
        refine hne (hclaim.unique hm' (h.claims hm' hlive' hinside) hm ?_)
        rw [hrole]
        rfl
      exact begun_later hdirty hmarks (fun _ => Ne.symm hne) (h.begun hm' hlive' hinside)
  · replace hready : memory.state = .ready := hready
    rcases hmoves : Deed.moves ⟨who, op, r⟩ with _ | target
    · rw [hmoves, Option.getD_none] at hstate
      have hbefore : v.memory.state = .ready := hstate.symm.trans hready
      -- the mark is taken away while a refresh is on its way only
      have hmarks : Deed.marks ⟨who, op, r⟩ ≠ some false := by
        intro hmarks
        have hrole := role_of_marks hmarks hpre
        refine haway.passing hm ?_ hbefore
        rw [hrole]
        rfl
      by_cases hcalls : Deed.marks ⟨who, op, r⟩ = some true
      · exact .inl (hdirty.trans (by rw [hcalls]; rfl))
      · refine (h.ready hbefore).imp (fun hd => ?_) fun hcovered => hcovered.later hcalls hmoves
        rw [marks_eq_none hmarks hcalls, Option.getD_none] at hdirty
        exact hdirty.trans hd
    · -- a report is applied
      rw [hmoves, Option.getD_some] at hstate
      obtain rfl : target = .ready := hstate.symm.trans hready
      obtain ⟨hinside, hmarks⟩ := inside_of_moves hmoves hpre
      rw [hmarks, Option.getD_none] at hdirty
      refine (h.begun hm hlive hinside).imp hdirty.trans fun hbegun => ?_
      exact .inr (Since.now ⟨hmoves, hbegun⟩)

/-- **Answers, step by step.** -/
lemma kept (h : Answered v) (hclaim : ClaimHeld v) (haway : Away v) (hrefresh : Refreshers v)
    (hstep : v.Step action v') : Answered v' := by
  rcases action.idle_or_perform with haction | ⟨deed, rfl⟩
  · obtain ⟨hidles, hhistory, hmembers⟩ := hstep.idles haction
    have hmember : ∀ {who m}, v'.members who = some m → m.live = true → m.activity.inside = true →
        ∃ m₀, v.members who = some m₀ ∧ m₀.live = true ∧ m.activity = m₀.activity := by
      intro who m hm hlive hinside
      rcases hmembers hm with ⟨-, hfirst⟩ | ⟨m₀, hm₀, -, hsame, halive⟩
      · rw [hfirst, firstActivity_idle.1] at hinside
        cases hinside
      · exact ⟨m₀, hm₀, halive hlive, hsame⟩
    refine ⟨fun hm hlive hinside => ?_, fun hm hlive hinside => ?_, fun hready => ?_⟩
    · obtain ⟨m₀, hm₀, hlive₀, hsame⟩ := hmember hm hlive hinside
      rw [hsame]
      exact h.claims hm₀ hlive₀ (hsame ▸ hinside)
    · obtain ⟨m₀, hm₀, hlive₀, hsame⟩ := hmember hm hlive hinside
      rw [hhistory, hidles.dirty]
      exact h.begun hm₀ hlive₀ (hsame ▸ hinside)
    · rw [hhistory, hidles.dirty]
      exact h.ready (hidles.state.symm.trans hready)
  · exact h.perform_kept hclaim haway hrefresh hstep

end Answered

/-! ## Runs of requests and loops -/

section

variable (side : RiskSide R) (scope : RuntimeScope) (port : RiskPort R)

/-- Coordinator `k` is asked for nothing but refreshes. -/
def refreshesOnly (k : ℕ) (_ : (Timeline side scope port).Config) :
    (Timeline side scope port).Label → Bool
  | .start job => decide (job.1 ≠ k) || job.2.refreshes
  | _ => true

/-- **A coalesced refresh loses no request.** In a run in which a coordinator is asked for nothing
but refreshes, whenever its state is `READY` and it is not marked as dirty, the last report that was
applied comes from a reconciliation that began after every request; and at any time one process at
most is inside a reconciliation whose report it has not applied or dropped.

**Proof sketch.** The claim is held by one process, or by the loop that is spawned, and only its
holder moves the state or takes the mark away. It takes the mark away after the state was moved to
`RECONCILING` and before it begins to reconcile. A request that comes after that beginning sets the
mark again, and the mark stays until the next beginning. -/
theorem coalesced_refresh_loses_no_request (hport : port.Quiet) {k : ℕ}
    {c₀ c : (Timeline side scope port).Config} (hthreads : c₀.threads = [])
    (htrace : c₀.state.trace = [])
    (hfirst : ∀ i, c₀.state.state.coordinators[k]? = some i →
      i.spawned.count .coalescedReconciliation = 0)
    (hrun : System.Reach (fun c label => refreshesOnly side scope port k c label = true) c₀ c)
    {i : Instance} (hi : c.state.state.coordinators[k]? = some i) :
    (i.state = .ready → i.dirty = false → Covered (deedsAt k c.state.trace)) ∧
      ∀ {who who' m m'}, memberAt k c who = some m → m.live = true → m.activity.inside = true →
        memberAt k c who' = some m' → m'.live = true → m'.activity.inside = true → who = who' := by
  have hinit : ∀ v, viewAt k c₀ = some v → Refreshers v ∧ ClaimHeld v ∧ Away v ∧ Answered v := by
    intro v hv
    obtain ⟨hmemory, hmembers, hhistory⟩ := viewAt_of_nil hthreads htrace hv
    have hnone := hfirst _ hmemory
    have hnobody : ∀ {who m}, v.members who ≠ some m := fun hm => by
      rw [hmembers] at hm
      cases hm
    refine ⟨fun _ _ hm => absurd hm hnobody, .of_nobody (fun hm => absurd hm hnobody) hnone,
      ⟨fun hm => absurd hm hnobody, fun hpos => absurd hpos (by omega)⟩,
      fun hm => absurd hm hnobody, fun hm => absurd hm hnobody, fun _ => ?_⟩
    rw [hhistory]
    exact .inr (.inl fun e he => by cases he)
  have hnew : Refreshers (View.new : View R) ∧ ClaimHeld (View.new : View R) ∧
      Away (View.new : View R) ∧ Answered (View.new : View R) :=
    ⟨fun _ _ hm => (by cases hm), .of_nobody nofun rfl, .new, fun hm => (by cases hm),
      fun hm => (by cases hm), nofun⟩
  obtain ⟨-, hinv⟩ := view_reach hport (fun v => Refreshers v ∧ ClaimHeld v ∧ Away v ∧ Answered v)
    (fun _ => hnew) (fun {c c' label v v' action} hgood _ _ _ hshows hview h => by
      obtain ⟨hrefresh, hclaim, haway, hanswered⟩ := h
      refine ⟨hrefresh.kept hview (fun who job haction => ?_), hclaim.kept hrefresh hview,
        haway.kept hclaim hrefresh hview, hanswered.kept hclaim haway hrefresh hview⟩
      subst haction
      obtain ⟨-, rfl⟩ := hshows
      simpa [refreshesOnly] using hgood)
    (.of_nil hthreads htrace) hinit hrun
  obtain ⟨-, hclaim, -, hanswered⟩ := hinv ⟨i, memberAt k c, deedsAt k c.state.trace⟩
    (by simp only [viewAt, hi, Option.map_some])
  refine ⟨fun hready hclean => ?_, fun hm hlive hinside hm' hlive' hinside' => ?_⟩
  · refine (hanswered.ready hready).resolve_left fun hdirty => ?_
    exact absurd (hclean.symm.trans hdirty) Bool.false_ne_true
  · exact hclaim.unique hm (hanswered.claims hm hlive hinside) hm'
      (hanswered.claims hm' hlive' hinside')

end

/-! ## Three requests -/

/-- Two requests overlap, and a third one comes while the loop reconciles. -/
def threeRequests : List (Timeline approvingSide fixtureScope approvingPort).Label :=
  let request : ℕ × Job := (0, .requestCoalescedReconciliation .reconciliationStarted "position")
  let run (who : ℕ) : (Timeline approvingSide fixtureScope approvingPort).Label :=
    .run who (plainChoice ())
  [.start request, .start request, run 0, run 1, run 0, run 1] ++ List.replicate 7 (run 0) ++
    [.start (0, .task .coalescedReconciliation 2)] ++ List.replicate 10 (run 2) ++
    [.start request, run 3, run 3] ++ List.replicate 36 (run 2)

/-- In this run the coordinator gets `READY` again, and all three requests are answered. -/
theorem three_requests_answered :
    ∃ c i, readyTimeline.runIf (fun c label =>
      refreshesOnly approvingSide fixtureScope approvingPort 0 c label = true) threeRequests =
        some c ∧
      c.state.state.coordinators[0]? = some i ∧ i.state = .ready ∧ i.dirty = false ∧
      ((deedsAt 0 c.state.trace).filter fun e => e.marks = some true).length = 3 ∧
      Covered (deedsAt 0 c.state.trace) := by
  obtain ⟨c, hc, i, hi, hready, hclean, hmarks⟩ : ∃ c, readyTimeline.runIf (fun c label =>
      refreshesOnly approvingSide fixtureScope approvingPort 0 c label = true) threeRequests =
        some c ∧ ∃ i, c.state.state.coordinators[0]? = some i ∧ i.state = .ready ∧ i.dirty = false ∧
      ((deedsAt 0 c.state.trace).filter fun e => e.marks = some true).length = 3 := by
    decide +kernel
  refine ⟨c, i, hc, hi, hready, hclean, hmarks, ?_⟩
  have hthreads : readyTimeline.threads = [] := rfl
  have htrace : readyTimeline.state.trace = [] := rfl
  refine (coalesced_refresh_loses_no_request approvingSide fixtureScope approvingPort
    approvingPort_quiet hthreads htrace (fun i hi => ?_)
    (System.Config.reach_of_runIf hc) hi).1 hready hclean
  cases hi
  rfl

end VoxTrader.Runtime
