import VoxTrader.Runtime.History

/-!
# One coordinator among many

The memory of a coordinator is worked on by its own processes only. This module looks at one
coordinator alone: its memory, the activities of its processes and what they have performed. What
can happen there is said once, as a relation between such views, and the system of all coordinators
is shown to do nothing else to it. Invariants of a coordinator are then invariants of this relation.

## Main definitions

* `View` — a coordinator with its processes and its history.
* `View.Step` — what can happen to it.
* `viewAt` — the view of a coordinator of the system.

## Main results

* `turn_of_pre` — how roles change.
* `view_step` — every step of the system is a step of the view, or leaves it alone.
* `view_reach` — the rule for invariants of a coordinator.
* `View.Step.performed`, `View.Step.idles` — what a step leaves of the memory and the processes.
-/

namespace VoxTrader.Runtime

open System

open Function (update_self update_of_ne)

/-! ## Views -/

/-- A process of a coordinator. -/
structure Member where
  job : Job
  activity : Activity
  /-- It is not over. -/
  live : Bool

/-- An operation that a process has performed. -/
structure Deed (R : Interface) where
  who : ℕ
  op : (full R).Op
  res : (full R).Res op

/-- A coordinator, with its processes and what they have performed, the newest first. -/
structure View (R : Interface) where
  memory : Instance
  members : ℕ → Option Member
  history : List (Deed R)

/-- What can happen to a coordinator. -/
inductive Action (R : Interface)
  | start (who : ℕ) (job : Job)
  | perform (deed : Deed R)
  | leave (who : ℕ)

/-- What a process performs, if it does. -/
def Action.deed {R : Interface} : Action R → Option (Deed R)
  | perform deed => some deed
  | _ => none

lemma Action.idle_or_perform {R : Interface} (action : Action R) :
    action.deed = none ∨ ∃ deed, action = .perform deed := by
  cases action with
  | perform deed => exact .inr ⟨deed, rfl⟩
  | _ => exact .inl rfl

/-- The memory when a job begins; a task has to be spawned first. -/
def Instance.begin (i : Instance) : Job → Option Instance
  | .task task _ =>
    if task ∈ i.spawned then some { i with spawned := i.spawned.erase task } else none
  | _ => some i

variable {job : Job}

section

variable {i i' : Instance} {R : Interface} {op : Volatile} {r : op.Res} {who : ℕ} {giveUp : Bool}

/-- Beginning a job takes at most its task. -/
lemma Instance.begin_frame (h : i.begin job = some i') : i' = { i with spawned := i'.spawned } ∧
      ∀ task, i'.spawned.count task ≤ i.spawned.count task := by
  unfold Instance.begin at h
  split at h
  · split_ifs at h
    cases h
    exact ⟨rfl, fun task => List.Sublist.count_le task List.erase_sublist⟩
  · cases h
    exact ⟨rfl, fun _ => le_rfl⟩

namespace View

variable {R : Interface}

/-- A new coordinator. -/
def new : View R := ⟨Instance.new, fun _ => none, []⟩

/-- **What happens to a coordinator**: a job begins, a process performs an operation the discipline
allows, or one goes away. -/
inductive Step (v : View R) : Action R → View R → Prop
  | start {who : ℕ} {job : Job} {live : Bool} {memory : Instance} (hwho : v.members who = none)
      (hidle : ∀ deed ∈ v.history, deed.who ≠ who) (hbegin : v.memory.begin job = some memory) :
      Step v (.start who job) ⟨memory,
        Function.update v.members who (some ⟨job, firstActivity job, live⟩), v.history⟩
  | perform (deed : Deed R) {m : Member} {live giveUp : Bool} {memory : Instance}
      (hm : v.members deed.who = some m) (hlive : m.live = true)
      (hpre : (activityDiscipline R).pre deed.op m.activity)
      (heffect : Effect deed.who giveUp deed.op deed.res v.memory memory) :
      Step v (.perform deed) ⟨memory, Function.update v.members deed.who
          (some ⟨m.job, (activityDiscipline R).next deed.op deed.res m.activity, live⟩),
        deed :: v.history⟩
  | leave {who : ℕ} {m : Member} {live : Bool} (hm : v.members who = some m)
      (hlive : live = true → m.live = true) :
      Step v (.leave who) ⟨v.memory.leave who,
        Function.update v.members who (some { m with live := live }), v.history⟩

end View

/-! ## The view of a coordinator -/

section

variable {R : Interface} {side : RiskSide R} {scope : RuntimeScope} {port : RiskPort R}

/-- A process of coordinator `k`. -/
def memberAt (k : ℕ) (c : (Timeline side scope port).Config) (who : ℕ) : Option Member :=
  match c.threads[who]? with
  | some (site, program) =>
    if Site.coordinator site = k then
      some ⟨Site.job site, activityAt who site c.state.trace, program.live⟩
    else none
  | none => none

/-- What the processes of coordinator `k` have performed. -/
def deedsAt (k : ℕ) (trace : List (runtimeSystem side scope port).Performed) : List (Deed R) :=
  trace.filterMap fun e => if Site.coordinator e.site = k then some ⟨e.who, e.op, e.res⟩ else none

/-- **The view of coordinator `k`.** -/
def viewAt (k : ℕ) (c : (Timeline side scope port).Config) : Option (View R) :=
  c.state.state.coordinators[k]?.map fun i => ⟨i, memberAt k c, deedsAt k c.state.trace⟩

/-- How a step of the system shows at coordinator `k`. -/
def Action.Shows (k : ℕ) (c : (Timeline side scope port).Config)
    (label : (Timeline side scope port).Label) : Action R → Prop
  | start who job => who = c.threads.length ∧ label = .start (k, job)
  | perform deed => ∃ choice site next, label = .run deed.who choice ∧
    c.threads[deed.who]? = some (site, .call deed.op next) ∧ Site.coordinator site = k
  | leave who => label = .kill who ∨ label = .abandon who

variable {k who : ℕ} {c c' : (Timeline side scope port).Config}

lemma viewAt_eq_some {v : View R} (h : viewAt k c = some v) :
    ∃ i, c.state.state.coordinators[k]? = some i ∧
      v = ⟨i, memberAt k c, deedsAt k c.state.trace⟩ := by
  obtain ⟨i, hi, rfl⟩ := Option.map_eq_some_iff.mp h
  exact ⟨i, hi, rfl⟩

variable {site : Site} {program : Process (full R) Unit}

lemma memberAt_of_thread (h : c.threads[who]? = some (site, program)) (hk : site.coordinator = k) :
    memberAt k c who = some ⟨site.job, activityAt who site c.state.trace, program.live⟩ := by
  simp only [memberAt, h]
  exact if_pos hk

lemma memberAt_of_elsewhere (h : c.threads[who]? = some (site, program))
    (hk : site.coordinator ≠ k) :
    memberAt k c who = none := by
  simp only [memberAt, h]
  exact if_neg hk

lemma memberAt_of_none (h : c.threads[who]? = none) : memberAt k c who = none := by
  simp only [memberAt, h]

lemma memberAt_congr (hthreads : c'.threads[who]? = c.threads[who]?)
    (hactivity : ∀ site, activityAt who site c'.state.trace = activityAt who site c.state.trace) :
    memberAt k c' who = memberAt k c who := by
  rcases hthread : c.threads[who]? with _ | ⟨site, program⟩
  · rw [memberAt_of_none hthread, memberAt_of_none (hthreads.trans hthread)]
  · change Site at site
    by_cases hk : Site.coordinator site = k
    · rw [memberAt_of_thread hthread hk, memberAt_of_thread (hthreads.trans hthread) hk, hactivity]
    · rw [memberAt_of_elsewhere hthread hk, memberAt_of_elsewhere (hthreads.trans hthread) hk]

/-- A process of the coordinator is a process of the system. -/
lemma memberAt_eq_some {m : Member} (h : memberAt k c who = some m) :
    ∃ program, c.threads[who]? = some (⟨k, m.job⟩, program) ∧ m.live = program.live ∧
      m.activity = activityAt who ⟨k, m.job⟩ c.state.trace := by
  rcases hthread : c.threads[who]? with _ | ⟨site, program⟩
  · rw [memberAt_of_none hthread] at h
    cases h
  · by_cases hk : Site.coordinator site = k
    · rw [memberAt_of_thread hthread hk] at h
      cases h
      subst hk
      exact ⟨program, rfl, rfl, rfl⟩
    · rw [memberAt_of_elsewhere hthread hk] at h
      cases h

end

/-! ## Steps of the system as steps of a view -/

section

variable {R : Interface} {side : RiskSide R} {scope : RuntimeScope} {port : RiskPort R}
  {k who : ℕ} {c c' : (Timeline side scope port).Config}

variable {w w' : World side.State} {site : Site} {program : Process (full R) Unit} {i : Instance}
  {good : (Timeline side scope port).Condition}
  {label : (Timeline side scope port).Label} {op : (full R).Op} {r : (full R).Res op}
  {trace : List (runtimeSystem side scope port).Performed} {v : View R}

/-- Beginning a job begins it in the memory of its coordinator. -/
lemma beginJob_begin (h : beginJob side scope port k job w = some (w', site, program))
    (hi : w.coordinators[k]? = some i) :
    ∃ i', i.begin job = some i' ∧ w'.coordinators[k]? = some i' := by
  unfold beginJob at h
  split at h
  · cases h
  · rename_i i₁ task passes hi₁
    cases hi₁.symm.trans hi
    split_ifs at h with hspawned
    cases h
    exact ⟨_, if_pos hspawned, List.getElem?_set_self (List.getElem?_eq_some_iff.mp hi).1⟩
  · rename_i hjob
    cases h
    refine ⟨i, ?_, hi⟩
    unfold Instance.begin
    split
    · exact absurd rfl (hjob _ _)
    · rfl

/-- Beginning a job leaves the other coordinators alone. -/
lemma beginJob_elsewhere {job : ℕ × Job}
    (h : beginJob side scope port job.1 job.2 w = some (w', site, program)) (hk : job.1 ≠ k) :
    w'.coordinators[k]? = w.coordinators[k]? := by
  unfold beginJob at h
  split at h
  · cases h
  · split_ifs at h
    cases h
    exact List.getElem?_set_ne hk
  · cases h
    rfl

/-- What the processes of a coordinator have performed was performed by its processes. -/
lemma mem_deedsAt (horderly : Orderly c) {deed : Deed R} (h : deed ∈ deedsAt k c.state.trace) :
    deed.who < c.threads.length ∧ k < c.state.state.coordinators.length := by
  obtain ⟨e, he, heq⟩ := List.mem_filterMap.mp h
  split_ifs at heq with hk
  cases heq
  obtain ⟨program, hthread⟩ := horderly.disciplined.sited e he
  exact ⟨(List.getElem?_eq_some_iff.mp hthread).1, hk ▸ horderly.housed _ _ _ hthread⟩

variable {c c' : (Timeline side scope port).Config}

/-- What the processes of a coordinator have performed since. -/
lemma deedsAt_since (h : Reach good c c') {n : ℕ}
    (hlength : (deedsAt k c'.state.trace).length = n + (deedsAt k c.state.trace).length) :
    deedsAt k c'.state.trace = (deedsAt k c'.state.trace).take n ++ deedsAt k c.state.trace := by
  obtain ⟨newer, hnewer⟩ := trace_reach h
  have happend : deedsAt k c'.state.trace = deedsAt k newer ++ deedsAt k c.state.trace := by
    rw [hnewer]
    exact List.filterMap_append
  rw [happend, List.length_append, Nat.add_right_cancel_iff] at hlength
  rw [happend, ← hlength, List.take_left]

/-- What a step added to it. -/
lemma deedsAt_step (h : c.step label = some c')
    (hlength : (deedsAt k c'.state.trace).length = 1 + (deedsAt k c.state.trace).length) :
    ∃ deed, deedsAt k c'.state.trace = deed :: deedsAt k c.state.trace := by
  have hsince := deedsAt_since (.step label .refl trivial h : Reach (fun _ _ => True) c c')
    hlength
  rcases hnew : deedsAt k c'.state.trace with _ | ⟨deed, older⟩
  · rw [hnew, List.length_nil] at hlength
    omega
  · rw [hnew, List.take_succ_cons, List.take_zero] at hsince
    exact ⟨deed, hsince⟩

/-- The processes are those that are there, except that one is replaced. -/
lemma memberAt_set (state : (runtimeSystem side scope port).Recorded)
    (program' : Process (full R) Unit) (hthread : c.threads[who]? = some (site, program))
    (hothers : ∀ other site', other ≠ who →
      activityAt other site' state.trace = activityAt other site' c.state.trace) :
    memberAt k (⟨state, c.threads.set who (site, program')⟩ : (Timeline side scope port).Config) =
      if site.coordinator = k then
        Function.update (memberAt k c) who
          (some ⟨site.job, activityAt who site state.trace, program'.live⟩)
      else memberAt k c := by
  have hself : (c.threads.set who (site, program'))[who]? = some (site, program') :=
    List.getElem?_set_self (List.getElem?_eq_some_iff.mp hthread).1
  have hrest : ∀ other, other ≠ who → memberAt k
      (⟨state, c.threads.set who (site, program')⟩ : (Timeline side scope port).Config) other =
        memberAt k c other := by
    intro other hne
    exact memberAt_congr (List.getElem?_set_ne (Ne.symm hne)) fun site' => hothers other site' hne
  funext other
  split_ifs with hk
  · by_cases hne : other = who
    · subst hne
      rw [update_self]
      exact memberAt_of_thread hself hk
    · rw [update_of_ne hne, hrest other hne]
  · by_cases hne : other = who
    · subst hne
      rw [memberAt_of_elsewhere hthread hk]
      exact memberAt_of_elsewhere hself hk
    · exact hrest other hne

/-- A process that is added. -/
lemma memberAt_append (state : (runtimeSystem side scope port).Recorded)
    (site : (Timeline side scope port).Site) (program : Process (full R) Unit)
    (horderly : Orderly c) (htrace : state.trace = c.state.trace) :
    memberAt k (⟨state, c.threads ++ [(site, program)]⟩ : (Timeline side scope port).Config) =
      if Site.coordinator site = k then
        Function.update (memberAt k c) c.threads.length
          (some ⟨Site.job site, firstActivity (Site.job site), program.live⟩)
      else memberAt k c := by
  have hself : (c.threads ++ [(site, program)])[c.threads.length]? = some (site, program) :=
    List.getElem?_concat_length
  have hrest : ∀ other, other ≠ c.threads.length → memberAt k
      (⟨state, c.threads ++ [(site, program)]⟩ : (Timeline side scope port).Config) other =
        memberAt k c other := by
    intro other hne
    exact memberAt_congr (getElem?_concat_of_ne _ hne) fun site' => by rw [htrace]
  funext other
  split_ifs with hk
  · by_cases hne : other = c.threads.length
    · subst hne
      rw [update_self, memberAt_of_thread hself hk]
      have hidle : activityAt c.threads.length site c.state.trace = firstActivity site.job :=
        activityAt_of_idle (horderly.disciplined.idle le_rfl)
      rw [← hidle, ← htrace]
    · rw [update_of_ne hne, hrest other hne]
  · by_cases hne : other = c.threads.length
    · subst hne
      rw [memberAt_of_none (List.getElem?_eq_none le_rfl)]
      exact memberAt_of_elsewhere hself hk
    · exact hrest other hne

lemma deedsAt_of_own (hk : site.coordinator = k) :
    deedsAt k (⟨who, site, op, r⟩ :: trace) = ⟨who, op, r⟩ :: deedsAt k trace :=
  List.filterMap_cons_some (if_pos hk)

lemma deedsAt_of_other (hk : site.coordinator ≠ k) :
    deedsAt k (⟨who, site, op, r⟩ :: trace) = deedsAt k trace :=
  List.filterMap_cons_none (if_neg hk)

/-- A process that goes away. -/
lemma view_leave {program' : Process (full R) Unit} (hi : c.state.state.coordinators[k]? = some i)
    (hthread : c.threads[who]? = some (site, program))
    (hlabel : label = .kill who ∨ label = .abandon who)
    (hlive : program'.live = true → program.live = true) :
    ∃ v', viewAt k (⟨⟨(runtimeSystem side scope port).leave who site c.state.state, c.state.trace⟩,
        c.threads.set who (site, program')⟩ : (Timeline side scope port).Config) = some v' ∧
      (v' = ⟨i, memberAt k c, deedsAt k c.state.trace⟩ ∨ ∃ action : Action R,
        action.Shows k c label ∧
          View.Step ⟨i, memberAt k c, deedsAt k c.state.trace⟩ action v') := by
  have hmembers := memberAt_set (k := k)
    ⟨(runtimeSystem side scope port).leave who site c.state.state, c.state.trace⟩ program' hthread
    fun _ _ _ => rfl
  have hmodify : ((runtimeSystem side scope port).leave who site c.state.state).coordinators[k]? =
      some (if site.coordinator = k then i.leave who else i) := by
    refine (List.getElem?_modify ..).trans ?_
    rw [hi]
    split_ifs <;> rfl
  refine ⟨⟨_, _, _⟩, by simp only [viewAt, hmodify, Option.map_some]; rfl, ?_⟩
  rw [hmembers]
  split_ifs with hk
  · exact .inr ⟨.leave who, hlabel,
      View.Step.leave (v := ⟨i, memberAt k c, deedsAt k c.state.trace⟩)
        (memberAt_of_thread hthread hk) hlive⟩
  · exact .inl rfl

/-- **Every step of the system is a step of the view of a coordinator**, or leaves it alone. -/
theorem view_step (horderly : Orderly c) (hstep : TracedStep c label c')
    (hv : viewAt k c = some v) : ∃ v', viewAt k c' = some v' ∧
      (v' = v ∨ ∃ action, action.Shows k c label ∧ v.Step action v') := by
  obtain ⟨i, hi, rfl⟩ := viewAt_eq_some hv
  have hshow : ∀ {i'}, c'.state.state.coordinators[k]? = some i' →
      viewAt k c' = some ⟨i', memberAt k c', deedsAt k c'.state.trace⟩ := by
    intro i' hi'
    simp only [viewAt, hi', Option.map_some]
  cases hstep with
  | @start job w site program hstart =>
    have hsite := (beginJob_frame hstart).2.1
    have hmembers := memberAt_append (k := k) ⟨w, c.state.trace⟩ site program horderly rfl
    by_cases hk : job.1 = k
    · subst hk
      obtain ⟨i', hbegin, hi'⟩ := beginJob_begin hstart hi
      refine ⟨_, hshow hi', .inr ⟨.start c.threads.length job.2, ⟨rfl, rfl⟩, ?_⟩⟩
      rw [hmembers, if_pos (by rw [hsite]), hsite]
      exact .start (memberAt_of_none (List.getElem?_eq_none le_rfl))
        (fun deed hdeed => Nat.ne_of_lt (mem_deedsAt horderly hdeed).1) hbegin
    · refine ⟨_, hshow ((beginJob_elsewhere hstart hk).trans hi), .inl ?_⟩
      rw [hmembers, if_neg (by rw [hsite]; exact hk)]
  | @run who choice site op next w r hthread hexec =>
    change Site at site
    have hmembers := memberAt_set (k := k) ⟨w, ⟨who, site, op, r⟩ :: c.state.trace⟩ (next r) hthread
      fun other site' hne => activityAt_of_ne (Ne.symm hne)
    obtain ⟨i', hi'⟩ : ∃ i', w.coordinators[k]? = some i' :=
      ⟨_, List.getElem?_eq_getElem (lt_of_lt_of_le (List.getElem?_eq_some_iff.mp hi).1
        (coordinators_length (.run hthread hexec)))⟩
    obtain ⟨i₁, hi₁, heffect⟩ := coordinators_run hexec hi'
    obtain rfl := Option.some.inj (hi₁.symm.trans hi)
    rcases heffect with ⟨hk, heffect⟩ | ⟨hk, rfl⟩
    · have hpre := (horderly.disciplined.follows hthread).1
      refine ⟨_, hshow hi', .inr ⟨.perform ⟨who, op, r⟩, ⟨choice, site, next, rfl, hthread, hk⟩,
        ?_⟩⟩
      rw [hmembers, if_pos hk, deedsAt_of_own hk, activityAt_self]
      exact View.Step.perform (v := ⟨i₁, memberAt k c, deedsAt k c.state.trace⟩) ⟨who, op, r⟩
        (memberAt_of_thread hthread hk) rfl hpre heffect
    · refine ⟨_, hshow hi', .inl ?_⟩
      rw [hmembers, if_neg hk, deedsAt_of_other hk]
  | @kill who site program hthread =>
    exact view_leave hi hthread (.inl rfl) (nofun)
  | @abandon who site op next hthread hdetached =>
    exact view_leave hi hthread (.inr rfl) (fun _ => rfl)
  | @event e w hevent =>
    refine ⟨_, hshow ?_, .inl rfl⟩
    cases e with
    | newCoordinator =>
      cases hevent
      exact (List.getElem?_append_left (List.getElem?_eq_some_iff.mp hi).1).trans hi
    | broker =>
      cases hevent
      exact hi

/-- A coordinator that was not there before is new. -/
lemma view_new (horderly : Orderly c) (hstep : TracedStep c label c') {v' : View R}
    (hv : viewAt k c = none) (hv' : viewAt k c' = some v') : v' = View.new := by
  have hk : c.state.state.coordinators.length ≤ k :=
    List.getElem?_eq_none_iff.mp (Option.map_eq_none_iff.mp hv)
  obtain ⟨i', hi', rfl⟩ := viewAt_eq_some hv'
  have habsent : ∀ {i}, c.state.state.coordinators[k]? ≠ some i := fun {i} hi =>
    absurd (List.getElem?_eq_some_iff.mp hi).1 (by omega)
  cases hstep with
  | start hstart =>
    obtain ⟨i, hi, -⟩ := coordinators_start hstart hi'
    exact absurd hi habsent
  | run hthread hexec =>
    obtain ⟨i, hi, -⟩ := coordinators_run hexec hi'
    exact absurd hi habsent
  | kill hthread | abandon hthread _ =>
    obtain ⟨i, hi, -⟩ := coordinators_leave hi'
    exact absurd hi habsent
  | event hevent =>
    rcases coordinators_event hevent hi' with hi | ⟨-, rfl⟩
    · exact absurd hi habsent
    -- nobody is there yet
    have hmembers : memberAt k c = fun _ => none := by
      funext who
      rcases hmember : memberAt k c who with _ | m
      · rfl
      · obtain ⟨program, hthread, -⟩ := memberAt_eq_some hmember
        exact absurd (horderly.housed _ _ _ hthread) (Nat.not_lt.mpr hk)
    have hdeeds : deedsAt k c.state.trace = [] :=
      List.eq_nil_iff_forall_not_mem.mpr fun deed hdeed =>
        absurd (mem_deedsAt horderly hdeed).2 (Nat.not_lt.mpr hk)
    change (⟨Instance.new, memberAt k c, deedsAt k c.state.trace⟩ : View R) = View.new
    rw [hmembers, hdeeds]
    rfl

/-- **The rule for invariants of a coordinator**: what holds of a new one and is kept by everything
that can happen to it holds wherever steps of the system lead. -/
theorem view_reach (hport : port.Quiet) {c₀ : (Timeline side scope port).Config}
    (Inv : View R → Prop) (hnew : viewAt k c₀ = none → Inv View.new)
    (hkept : ∀ {c c' label v v' action}, good c label → TracedStep c label c' →
      viewAt k c = some v → viewAt k c' = some v' → Action.Shows k c label action →
      View.Step v action v' → Inv v → Inv v') (horderly : Orderly c₀)
    (hinit : ∀ v, viewAt k c₀ = some v → Inv v) (hreach : Reach good c₀ c) :
    Orderly c ∧ ∀ v, viewAt k c = some v → Inv v := by
  -- a coordinator that is not there was not there before
  have hstep : ∀ {c c' : (Timeline side scope port).Config} {label}, Orderly c →
      (viewAt k c = none → viewAt k c₀ = none) ∧ (∀ v, viewAt k c = some v → Inv v) →
      good c label → TracedStep c label c' →
      (viewAt k c' = none → viewAt k c₀ = none) ∧ ∀ v', viewAt k c' = some v' → Inv v' := by
    intro c c' label horderly hinv hgood hstep
    rcases hv : viewAt k c with _ | v
    · refine ⟨fun _ => hinv.1 hv, fun v' hv' => ?_⟩
      rw [view_new horderly hstep hv hv']
      exact hnew (hinv.1 hv)
    · obtain ⟨v', hv', hcase⟩ := view_step horderly hstep hv
      rw [hv']
      refine ⟨nofun, fun v₁ hv₁ => ?_⟩
      cases hv₁
      rcases hcase with rfl | ⟨action, hshows, hview⟩
      · exact hinv.2 _ hv
      · exact hkept hgood hstep hv hv' hshows hview (hinv.2 _ hv)
  have hall := timeline_reach hport hstep horderly ⟨id, hinit⟩ hreach
  exact ⟨hall.1, hall.2.2⟩

/-- Before any call a coordinator has no processes and no history. -/
lemma viewAt_of_nil (hthreads : c.threads = []) (htrace : c.state.trace = [])
    (hv : viewAt k c = some v) :
    c.state.state.coordinators[k]? = some v.memory ∧ v.members = (fun _ => none) ∧
      v.history = [] := by
  obtain ⟨i, hi, rfl⟩ := viewAt_eq_some hv
  refine ⟨hi, funext fun who => memberAt_of_none ?_, ?_⟩
  · rw [hthreads]
    rfl
  · rw [htrace]
    rfl

end

/-! ## Roles -/

/-- The operation can change what its process is allowed to do. -/
def Volatile.turns : (op : Volatile) → op.Res → Bool
  | casStarted, _ | storeEpoch _, _ | spawn _, _ | storeRunning _, _ => true
  | casRunning, (claimed : Bool) => claimed
  | moveState _, (result : Except TransitionError RuntimeState) => result.toBool
  | _, _ => false

/-- How an operation turns one role into another. -/
inductive Turn {R : Interface} : (op : (full R).Op) → (full R).Res op → Role → Role → Prop
  | startFirst : Turn (.inl (.inl (.inl (.volatile .casStarted)))) true .fresh .starter
  | startAgain : Turn (.inl (.inl (.inl (.volatile .casStarted)))) false .fresh .plain
  | acquire {op : (full R).Op} {r : (full R).Res op} {epoch : ℕ}
      (hop : ∀ op', op ≠ .inl (.inl (.inl (.volatile op')))) :
      Turn op r .starter (.acquired epoch)
  | publish {epoch : ℕ} :
      Turn (.inl (.inl (.inl (.volatile (.storeEpoch epoch))))) () (.acquired epoch) .owner
  | handOver : Turn (.inl (.inl (.inl (.volatile (.spawn .streamWorker))))) () .owner .plain
  | claim {role : Role} (hrole : role.asks = true) :
      Turn (.inl (.inl (.inl (.volatile .casRunning)))) true role role.claim
  | spawnLoop {role : Role} :
      Turn (.inl (.inl (.inl (.volatile (.spawn .coalescedReconciliation))))) ()
        (.refreshing role true) role
  | release {moved : Bool} :
      Turn (.inl (.inl (.inl (.volatile (.storeRunning false))))) () (.loop moved) .released
  | settle {target : RuntimeState} {result : Except TransitionError RuntimeState} {role : Role}
      (hresult : result.toBool = true) (hrole : role.unclaimed = false) :
      Turn (.inl (.inl (.inl (.volatile (.moveState target))))) result role (role.settle target)
  | stay {op : Volatile} {r : op.Res} {role : Role} (hop : op.turns r = false) :
      Turn (.inl (.inl (.inl (.volatile op)))) r role role
  | beside {op : (full R).Op} {r : (full R).Res op} {role : Role}
      (hop : ∀ op', op ≠ .inl (.inl (.inl (.volatile op')))) : Turn op r role role

/-- **The role changes in these ways only.** -/
lemma turn_of_pre {op : (full R).Op} {r : (full R).Res op} {a : Activity}
    (hpre : (activityDiscipline R).pre op a) :
    Turn op r a.role ((activityDiscipline R).next op r a).role := by
  rcases volatile_or_beside op with ⟨op, rfl⟩ | hother
  · cases op with
    | casStarted =>
      replace hpre : a.role = .fresh := hpre
      rw [hpre]
      cases r with
      | true => exact .startFirst
      | false => exact .startAgain
    | storeEpoch epoch =>
      replace hpre : a.role = .acquired epoch := hpre
      rw [hpre]
      exact .publish
    | casRunning =>
      cases r with
      | true => exact .claim hpre
      | false => exact .stay rfl
    | storeRunning value =>
      obtain ⟨rfl, moved, hrole⟩ : value = false ∧ ∃ moved, a.role = .loop moved := hpre
      rw [hrole]
      exact .release
    | spawn task =>
      cases task with
      | streamWorker =>
        replace hpre : a.role = .owner := hpre
        rw [hpre]
        exact .handOver
      | coalescedReconciliation =>
        obtain ⟨role, hrole⟩ : ∃ role, a.role = .refreshing role true := hpre
        change Turn _ _ a.role a.role.back
        rw [hrole]
        exact .spawnLoop
    | moveState =>
      cases r with
      | error => exact .stay rfl
      | ok => exact .settle rfl hpre.2.2.2
    | _ => exact .stay rfl
  · rcases (activity_beside (a := a) hother).role with hsame | ⟨hstarter, epoch, hrole⟩
    · rw [hsame]
      exact .beside hother
    · rw [hstarter, hrole]
      exact .acquire hother

/-- An operation that changes no role leaves the flags of start and refresh alone, and spawns
nothing. -/
lemma exec_stay (hop : op.turns r = false) (hexec : op.exec who giveUp i = some (i', r)) :
    i'.started = i.started ∧ i'.running = i.running ∧
      ∀ task, i'.spawned.count task ≤ i.spawned.count task := by
  obtain rfl := Volatile.exec_memory hexec
  cases op with
  | casStarted | storeEpoch _ | spawn _ | storeRunning _ => cases hop
  | casRunning =>
    cases hexec
    have hrunning : i.running = true := by simpa [Volatile.turns] using hop
    exact ⟨rfl, hrunning.symm, fun _ => le_rfl⟩
  | abort => exact ⟨rfl, rfl, fun task' => List.Sublist.count_le task' List.filter_sublist⟩
  | _ => exact ⟨rfl, rfl, fun _ => le_rfl⟩

/-- A transition that is accepted moves the state, and nothing else. -/
lemma exec_moveState {target : RuntimeState} {result : Except TransitionError RuntimeState}
    (hresult : result.toBool = true)
    (hexec : (Volatile.moveState target).exec who giveUp i = some (i', result)) :
    i' = { i with state := target } := by
  obtain rfl := Volatile.exec_memory hexec
  simp only [Volatile.memory, hresult, if_true]

/-- Only one operation changes whether the streams are marked as connected. -/
lemma exec_connected (hop : ∀ value, op ≠ .storeConnected value)
    (hexec : op.exec who giveUp i = some (i', r)) : i'.connected = i.connected := by
  obtain rfl := Volatile.exec_memory hexec
  cases op with
  | storeConnected value => exact absurd rfl (hop value)
  | _ => rfl

/-- No job begins inside of a reconciliation, or with anything seen of the gate. -/
lemma firstActivity_idle : (firstActivity job).inside = false ∧ (firstActivity job).gate = 0 := by
  cases job with
  | task task => cases task <;> exact ⟨rfl, rfl⟩
  | _ => exact ⟨rfl, rfl⟩

lemma Effect.exec (h : Effect (R := R) who giveUp (.inl (.inl (.inl (.volatile op)))) r i i') :
    op.exec who giveUp i = some (i', r) := by
  cases h with
  | memory hexec => exact hexec
  | nothing hop => exact absurd rfl (hop op)

lemma Effect.eq {op : (full R).Op} {r : (full R).Res op} (h : Effect who giveUp op r i i')
    (hop : ∀ op', op ≠ .inl (.inl (.inl (.volatile op')))) : i' = i := by
  cases h with
  | memory => exact absurd rfl (hop _)
  | nothing => rfl

/-! ## What a deed does to the memory -/

/-- The state a process moved the coordinator to. -/
def Deed.moves {R : Interface} : Deed R → Option RuntimeState
  | ⟨_, .inl (.inl (.inl (.volatile (.moveState target)))), result⟩ =>
    if Except.toBool (α := RuntimeState) result then some target else none
  | _ => none

/-- The mark a process set. -/
def Deed.marks {R : Interface} : Deed R → Option Bool
  | ⟨_, .inl (.inl (.inl (.volatile (.storeDirty value)))), _⟩ => some value
  | _ => none

/-- A process began a reconciliation. -/
def Deed.begins {R : Interface} : Deed R → Bool
  | ⟨_, .inl (.inl (.inl (.volatile .lockReconciliation))), _⟩ => true
  | _ => false

section

variable {R : Interface} {who : ℕ} {giveUp : Bool} {op : (full R).Op} {r : (full R).Res op}
  {i i' : Instance}

/-- What is done outside of the memory is none of these. -/
lemma Deed.beside (who : ℕ) (hop : ∀ op', op ≠ .inl (.inl (.inl (.volatile op')))) :
    Deed.moves ⟨who, op, r⟩ = none ∧ Deed.marks ⟨who, op, r⟩ = none ∧
      Deed.begins ⟨who, op, r⟩ = false := by
  refine ⟨?_, ?_, ?_⟩
  · unfold Deed.moves
    split
    · rename_i heq
      cases heq
      exact absurd rfl (hop _)
    · rfl
  · unfold Deed.marks
    split
    · rename_i heq
      cases heq
      exact absurd rfl (hop _)
    · rfl
  · unfold Deed.begins
    split
    · rename_i heq
      cases heq
      exact absurd rfl (hop _)
    · rfl

/-- The state and the mark after a deed. -/
lemma Effect.state_dirty (h : Effect who giveUp op r i i') :
    i'.state = (Deed.moves ⟨who, op, r⟩).getD i.state ∧
      i'.dirty = (Deed.marks ⟨who, op, r⟩).getD i.dirty := by
  cases h with
  | nothing hop =>
    obtain ⟨hmoves, hmarks, -⟩ := Deed.beside who hop
    rw [hmoves, hmarks]
    exact ⟨rfl, rfl⟩
  | @memory op r i i' hexec =>
    obtain rfl := Volatile.exec_memory hexec
    cases op with
    | moveState =>
      rcases r with _ | _ <;> exact ⟨rfl, rfl⟩
    | _ => exact ⟨rfl, rfl⟩

lemma op_of_begins (h : Deed.begins ⟨who, op, r⟩ = true) :
    op = .inl (.inl (.inl (.volatile .lockReconciliation))) := by
  unfold Deed.begins at h
  split at h
  · rename_i heq
    exact congrArg Deed.op heq
  · cases h

/-- Who moves the state to `READY` is inside of a reconciliation. -/
lemma inside_of_moves {a : Activity} (h : Deed.moves ⟨who, op, r⟩ = some .ready)
    (hpre : (activityDiscipline R).pre op a) :
    a.inside = true ∧ Deed.marks ⟨who, op, r⟩ = none := by
  unfold Deed.moves at h
  split at h
  · rename_i heq
    cases heq
    split_ifs at h
    exact ⟨hpre.2.1 (Option.some.inj h), rfl⟩
  · cases h

/-- A process is inside of a reconciliation when it has just begun it, or was inside and has not
dropped its report. -/
lemma inside_next (who : ℕ) {a : Activity}
    (h : ((activityDiscipline R).next op r a).inside = true) :
    Deed.begins ⟨who, op, r⟩ = true ∨
      a.inside = true ∧ Deed.begins ⟨who, op, r⟩ = false ∧ Deed.moves ⟨who, op, r⟩ = none ∧
        Deed.marks ⟨who, op, r⟩ ≠ some false := by
  rcases volatile_or_beside op with ⟨op, rfl⟩ | hother
  · cases op with
    | lockReconciliation => exact .inl rfl
    | moveState _ | storeConnected _ | storeRunning _ => cases h
    | storeDirty =>
      obtain ⟨hinside, rfl⟩ := Bool.and_eq_true_iff.mp h
      exact .inr ⟨hinside, rfl, rfl, nofun⟩
    | spawn task =>
      cases task with
      | streamWorker => exact .inr ⟨h, rfl, rfl, nofun⟩
      | coalescedReconciliation => cases h
    | _ => exact .inr ⟨h, rfl, rfl, nofun⟩
  · obtain ⟨hmoves, hmarks, hbegins⟩ := Deed.beside who hother
    rw [(activity_beside hother).inside] at h
    refine .inr ⟨h, hbegins, hmoves, ?_⟩
    rw [hmarks]
    exact nofun

end

end

/-! ## Processes through a step -/

/-- Whose step it is. -/
def Action.who {R : Interface} : Action R → ℕ
  | start who _ => who
  | perform deed => deed.who
  | leave who => who

section

variable {R : Interface} {v v' : View R} {action : Action R} {who : ℕ} {m m' : Member}

/-- One entry of a table is replaced. -/
lemma update_eq_some {table : ℕ → Option Member} {other : ℕ}
    (h : Function.update table who (some m) other = some m') :
    other = who ∧ m' = m ∨ other ≠ who ∧ table other = some m' := by
  by_cases hwho : other = who
  · subst hwho
    rw [update_self] at h
    exact .inl ⟨rfl, (Option.some.inj h).symm⟩
  · rw [update_of_ne hwho] at h
    exact .inr ⟨hwho, h⟩

/-- A step concerns one process only. -/
lemma View.Step.others (h : v.Step action v') (hwho : who ≠ action.who) :
    v'.members who = v.members who := by
  cases h <;> exact update_of_ne hwho ..

/-- **A process performs an operation**: the memory shows its effect, and everybody else is what
they were. -/
lemma View.Step.performed {deed : Deed R} (h : v.Step (.perform deed) v') :
    ∃ m giveUp, v.members deed.who = some m ∧ m.live = true ∧
      (activityDiscipline R).pre deed.op m.activity ∧
      Effect deed.who giveUp deed.op deed.res v.memory v'.memory ∧ v'.history = deed :: v.history ∧
      ∀ {other m'}, v'.members other = some m' → other = deed.who ∧ m'.job = m.job ∧
          m'.activity = (activityDiscipline R).next deed.op deed.res m.activity ∨
        other ≠ deed.who ∧ v.members other = some m' := by
  cases h with
  | @perform _ m live giveUp _ hm hlive hpre heffect =>
    refine ⟨m, giveUp, hm, hlive, hpre, heffect, rfl, fun hm' => ?_⟩
    rcases update_eq_some hm' with ⟨rfl, rfl⟩ | hother
    · exact .inl ⟨rfl, rfl, rfl⟩
    · exact .inr hother

/-- What a step at which nothing is performed leaves of the memory. -/
structure Instance.Idles (i i' : Instance) : Prop where
  started : i'.started = i.started
  state : i'.state = i.state
  connected : i'.connected = i.connected
  dirty : i'.dirty = i.dirty
  running : i'.running = i.running
  spawned : ∀ task, i'.spawned.count task ≤ i.spawned.count task

/-- **Nothing is performed**: a process begins or goes away, and everybody else is what they
were. -/
lemma View.Step.idles (h : v.Step action v') (haction : action.deed = none) :
    v.memory.Idles v'.memory ∧ v'.history = v.history ∧ ∀ {other m'}, v'.members other = some m' →
        action = .start other m'.job ∧ m'.activity = firstActivity m'.job ∨
        ∃ m, v.members other = some m ∧ m'.job = m.job ∧ m'.activity = m.activity ∧
          (m'.live = true → m.live = true) := by
  cases h with
  | start _ _ hbegin =>
    obtain ⟨hsame, hcount⟩ := Instance.begin_frame hbegin
    refine ⟨⟨?_, ?_, ?_, ?_, ?_, hcount⟩, rfl, fun hm' => ?_⟩
    iterate 5 rw [hsame]
    rcases update_eq_some hm' with ⟨rfl, rfl⟩ | ⟨-, hm'⟩
    · exact .inl ⟨rfl, rfl⟩
    · exact .inr ⟨_, hm', rfl, rfl, id⟩
  | perform => cases haction
  | leave hm hlive =>
    refine ⟨⟨rfl, rfl, rfl, rfl, rfl, fun _ => le_rfl⟩, rfl, fun hm' => .inr ?_⟩
    rcases update_eq_some hm' with ⟨rfl, rfl⟩ | ⟨-, hm'⟩
    · exact ⟨_, hm, rfl, rfl, hlive⟩
    · exact ⟨_, hm', rfl, rfl, id⟩

/-- A task that begins was spawned. -/
lemma View.Step.begun {task : Task} {passes : ℕ} (h : v.Step (.start who (.task task passes)) v') :
    task ∈ v.memory.spawned ∧
      v'.memory = { v.memory with spawned := v.memory.spawned.erase task } := by
  cases h with
  | start _ _ hbegin =>
    simp only [Instance.begin] at hbegin
    split_ifs at hbegin with hspawned
    exact ⟨hspawned, (Option.some.inj hbegin).symm⟩

/-- History only grows. -/
lemma View.Step.history (h : v.Step action v') : ∃ new, v'.history = new ++ v.history := by
  cases h with
  | start _ _ _ | leave _ _ => exact ⟨[], rfl⟩
  | perform deed => exact ⟨[deed], rfl⟩

/-- No process is forgotten. -/
lemma View.Step.member (h : v.Step action v') (hm : v.members who = some m) :
    ∃ m', v'.members who = some m' ∧ m'.job = m.job := by
  by_cases hwho : who = action.who
  · cases h with
    | start hnone =>
      subst hwho
      exact absurd (hm.symm.trans hnone) (by simp)
    | perform deed hm' _ _ _ | leave hm' _ =>
      subst hwho
      cases hm.symm.trans hm'
      exact ⟨_, update_self .., rfl⟩
  · exact ⟨m, (h.others hwho).trans hm, rfl⟩

end

/-! ## What one process has -/

section

variable {R : Interface} {has : Role → Bool} {task : Task} {mark : Instance → Bool} {v v' : View R}
  {action : Action R}

/-- A job that has the claim when it begins is a loop. -/
lemma firstActivity_claims (h : (firstActivity job).role.claims = true) :
    ∃ passes, job = .task .coalescedReconciliation passes := by
  cases job with
  | task task passes =>
    cases task with
    | streamWorker => cases h
    | coalescedReconciliation => exact ⟨passes, rfl⟩
  | _ => cases h

/-- Something one process at most has, or the task that is spawned to take it over. While there is
one of them the mark is set. -/
structure Exclusive (has : Role → Bool) (task : Task) (mark : Instance → Bool) (v : View R) :
    Prop where
  unique : ∀ {who who' m m'}, v.members who = some m → has m.activity.role = true →
    v.members who' = some m' → has m'.activity.role = true → who = who'
  handed : ∀ {who m}, v.members who = some m → has m.activity.role = true →
    v.memory.spawned.count task = 0 ∧ mark v.memory = true
  once : v.memory.spawned.count task ≤ 1 ∧ (0 < v.memory.spawned.count task → mark v.memory = true)

/-- What an operation does to it: the process keeps it or does not get it, takes it while nobody has
it, hands it to the task it spawns, or gives it up. -/
inductive Passes (has : Role → Bool) (task : Task) (mark : Instance → Bool) (role role' : Role)
    (i i' : Instance) : Prop
  | keep (hrole : has role' = true → has role = true)
      (hcount : i'.spawned.count task ≤ i.spawned.count task) (hmark : mark i' = mark i)
  | take (hfree : mark i = false) (hcount : i'.spawned.count task ≤ i.spawned.count task)
      (hmark : mark i' = true)
  | hand (hrole : has role = true) (hrole' : has role' ≠ true)
      (hcount : i'.spawned.count task ≤ i.spawned.count task + 1) (hmark : mark i' = mark i)
  | drop (hrole : has role = true) (hrole' : has role' ≠ true)
      (hcount : i'.spawned.count task ≤ i.spawned.count task)

namespace Exclusive

/-- Nobody has it, and the task is not spawned. -/
lemma of_nobody (hnobody : ∀ {who m}, v.members who = some m → has m.activity.role ≠ true)
    (hnone : v.memory.spawned.count task = 0) : Exclusive has task mark v where
  unique hm hhas := absurd hhas (hnobody hm)
  handed hm hhas := absurd hhas (hnobody hm)
  once := by omega

/-- Nobody but process `who` has it, and the task is not spawned. -/
lemma of_only (who : ℕ)
    (honly : ∀ {other m}, v.members other = some m → has m.activity.role = true → other = who)
    (hnone : v.memory.spawned.count task = 0) (hmark : mark v.memory = true) :
    Exclusive has task mark v where
  unique hm hhas hm' hhas' := (honly hm hhas).trans (honly hm' hhas').symm
  handed _ _ := ⟨hnone, hmark⟩
  once := ⟨hnone.le.trans (Nat.zero_le _), fun _ => hmark⟩

/-- Nobody new has it. -/
lemma shrink (h : Exclusive has task mark v)
    (hmembers : ∀ {who m'}, v'.members who = some m' → has m'.activity.role = true →
      ∃ m, v.members who = some m ∧ has m.activity.role = true)
    (hcount : v'.memory.spawned.count task ≤ v.memory.spawned.count task)
    (hmark : mark v'.memory = mark v.memory) : Exclusive has task mark v' where
  unique hm hhas hm' hhas' := by
    obtain ⟨m, hm, hhas⟩ := hmembers hm hhas
    obtain ⟨m', hm', hhas'⟩ := hmembers hm' hhas'
    exact h.unique hm hhas hm' hhas'
  handed hm hhas := by
    obtain ⟨m, hm, hhas⟩ := hmembers hm hhas
    obtain ⟨hnone, hset⟩ := h.handed hm hhas
    exact ⟨Nat.le_zero.mp (hcount.trans hnone.le), hmark.trans hset⟩
  once := ⟨hcount.trans h.once.1, fun hpos => hmark.trans (h.once.2 (lt_of_lt_of_le hpos hcount))⟩

/-- Nothing is performed. The task may begin, and then it takes over. -/
lemma idle_kept (h : Exclusive has task mark v)
    (hfirst : ∀ {job}, has (firstActivity job).role = true → ∃ passes, job = .task task passes)
    (hmark : v.memory.Idles v'.memory → mark v'.memory = mark v.memory)
    (hstep : v.Step action v') (haction : action.deed = none) : Exclusive has task mark v' := by
  obtain ⟨hidles, -, hmembers⟩ := hstep.idles haction
  by_cases hbegins : ∃ who passes, action = .start who (.task task passes)
  · obtain ⟨who, passes, rfl⟩ := hbegins
    obtain ⟨hspawned, hmemory⟩ := hstep.begun
    have hpos : 0 < v.memory.spawned.count task := List.count_pos_iff.mpr hspawned
    refine of_only who (fun {other m} hm hhas => ?_) ?_ ((hmark hidles).trans (h.once.2 hpos))
    · rcases hmembers hm with ⟨hstart, -⟩ | ⟨m₀, hm₀, -, hsame, -⟩
      · exact (Action.start.inj hstart).1.symm
      · have := (h.handed hm₀ (hsame ▸ hhas)).1
        omega
    · rw [hmemory, List.count_erase_self]
      have := h.once.1
      omega
  · refine h.shrink (fun {who m} hm hhas => ?_) (hidles.spawned _) (hmark hidles)
    rcases hmembers hm with ⟨hstart, hfresh⟩ | ⟨m₀, hm₀, -, hsame, -⟩
    · obtain ⟨passes, hjob⟩ := hfirst (hfresh ▸ hhas)
      exact absurd ⟨who, passes, hjob ▸ hstart⟩ hbegins
    · exact ⟨m₀, hm₀, hsame ▸ hhas⟩

/-- A process performs an operation. -/
lemma perform_kept (h : Exclusive has task mark v) {deed : Deed R}
    (hstep : v.Step (.perform deed) v')
    (hpasses : ∀ {m giveUp role'}, v.members deed.who = some m →
      Turn deed.op deed.res m.activity.role role' →
      Effect deed.who giveUp deed.op deed.res v.memory v'.memory →
      Passes has task mark m.activity.role role' v.memory v'.memory) :
    Exclusive has task mark v' := by
  obtain ⟨m, giveUp, hm, -, hpre, heffect, -, hmembers⟩ := hstep.performed
  -- who had it was the only one
  have hnobody (hrole : has m.activity.role = true)
      (hrole' : has ((activityDiscipline R).next deed.op deed.res m.activity).role ≠ true) :
      ∀ {other m'}, v'.members other = some m' → has m'.activity.role ≠ true := by
    intro other m' hm' hhas
    rcases hmembers hm' with ⟨rfl, -, hnext⟩ | ⟨hne, hm'⟩
    · exact hrole' (hnext ▸ hhas)
    · exact hne (h.unique hm' hhas hm hrole)
  cases hpasses hm (turn_of_pre hpre) heffect with
  | keep hrole hcount hmark =>
    refine h.shrink (fun {other m'} hm' hhas => ?_) hcount hmark
    rcases hmembers hm' with ⟨rfl, -, hnext⟩ | ⟨-, hm'⟩
    · exact ⟨m, hm, hrole (hnext ▸ hhas)⟩
    · exact ⟨m', hm', hhas⟩
  | take hfree hcount hmark =>
    have hunset : mark v.memory ≠ true := by
      rw [hfree]
      exact Bool.false_ne_true
    have hnone : ¬ 0 < v.memory.spawned.count task := fun hpos => hunset (h.once.2 hpos)
    refine of_only deed.who (fun {other m'} hm' hhas => ?_) (by omega) hmark
    rcases hmembers hm' with ⟨rfl, -⟩ | ⟨-, hm'⟩
    · rfl
    · exact absurd (h.handed hm' hhas).2 hunset
  | hand hrole hrole' hcount hmark =>
    obtain ⟨hnone, hset⟩ := h.handed hm hrole
    exact ⟨fun hm' hhas => absurd hhas (hnobody hrole hrole' hm'),
      fun hm' hhas => absurd hhas (hnobody hrole hrole' hm'), by omega, fun _ => hmark.trans hset⟩
  | drop hrole hrole' =>
    have hnone := (h.handed hm hrole).1
    exact of_nobody (hnobody hrole hrole') (by omega)

end Exclusive

end

end VoxTrader.Runtime
