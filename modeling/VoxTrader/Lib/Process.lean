import Mathlib.Data.List.Basic

/-!
# Concurrent processes over a shared state

A process is a program whose only effects are the operations of an interface. A system runs any
number of processes on one shared state, one operation at a time, in any order; a process can be
killed between two operations, or be abandoned with its next operation still on its way, and the
environment may change the state between operations.

Invariants over all interleavings are proved with a *discipline*: every process carries a ghost
value, an operation has a precondition on the ghost value of its process and changes it according
to the result. That a program follows a discipline is a statement about the program alone,
`Process.Follows`; that an invariant of the shared state and all ghost values survives one
operation is a statement about the operation alone. `System.Maintained.reach` puts the two
together, for a *protocol*: a discipline that also says which ghost values a site can have.

## Main definitions

* `Interface`, `Process` — operations with their results, and programs over them.
* `Process.lift` — a program over part of a larger interface.
* `Process.Returns`, `Process.Ensures` — what all results of a program satisfy.
* `Discipline`, `Process.Follows` — ghost values and the programs that respect them.
* `Process.Yields` — what the value of a disciplined program satisfies.
* `Process.Keeps` — programs that also keep a property of the ghost value.
* `Process.Performs` — programs that perform only some of the operations.
* `System`, `System.Config.step`, `System.Reach` — processes on a shared state.
* `System.Protocol` — a discipline for the processes of a system.
* `System.Maintained` — an invariant that every kind of step keeps.

## Main results

* `Process.follows_bind`, `Process.follows_lift`, `Process.follows_of_free` — how disciplined
  programs compose.
* `System.Maintained.reach` — a maintained invariant holds in every reachable configuration.
-/

/-- Operations, each with the type of its result. -/
structure Interface where
  /-- The operations. -/
  Op : Type
  /-- The result of an operation. -/
  Res : Op → Type

/-- The operations of two interfaces together. -/
def Interface.sum (I J : Interface) : Interface where
  Op := I.Op ⊕ J.Op
  Res := Sum.elim I.Res J.Res

/-- A program: finished, or about to perform an operation and to go on with its result. -/
inductive Process (I : Interface) (α : Type) : Type
  | done (a : α)
  | call (op : I.Op) (next : I.Res op → Process I α)

namespace Process

variable {I : Interface} {α β ε G : Type}

/-- The program is not over. -/
def live : Process I α → Bool
  | done _ => false
  | call _ _ => true

/-- One program after another. -/
protected def bind : Process I α → (α → Process I β) → Process I β
  | done a, f => f a
  | call op next, f => call op fun r => (next r).bind f

instance : Monad (Process I) where
  pure := done
  bind := Process.bind

/-- Perform one operation. -/
def perform (op : I.Op) : Process I (I.Res op) := call op done

/-! ## Programs with part of the operations -/

/-- A program over one part of a larger interface. -/
def lift {J : Interface} : Process I α → Process (I.sum J) α
  | done a => done a
  | call op next => call (Sum.inl op) fun r => (next r).lift

instance {J : Interface} : MonadLift (Process I) (Process (I.sum J)) := ⟨lift⟩

instance {J : Interface} : MonadLift (ExceptT ε (Process I)) (ExceptT ε (Process (I.sum J))) :=
  ⟨fun x => ExceptT.mk x.run.lift⟩

/-- An operation of the other part. -/
def performRight {J : Interface} (op : J.Op) : Process (I.sum J) (J.Res op) :=
  call (Sum.inr op) done

/-- Go on with a result that may be a failure. -/
def orFail {ε' : Type} (f : ε → ε') (x : Process I (Except ε α)) : ExceptT ε' (Process I) α :=
  ExceptT.mk (do return (← x).mapError f)

/-! ## Results -/

/-- Whatever its operations return, the result satisfies `P`. -/
def Returns (P : α → Prop) : Process I α → Prop
  | done a => P a
  | call _ next => ∀ r, (next r).Returns P

variable {P : α → Prop} {x : Process I α}

/-- What holds of every value holds of every result. -/
lemma returns_of_forall (h : ∀ a, P a) : x.Returns P := by
  induction x with
  | done a => exact h a
  | call op next ih => exact fun r => ih r

/-- A weaker property of the results. -/
lemma Returns.mono {P' : α → Prop} (h : ∀ a, P a → P' a) (hx : x.Returns P) : x.Returns P' := by
  induction x with
  | done a => exact h a hx
  | call op next ih => exact fun r => ih r (hx r)

/-- The results of a sequence. -/
lemma returns_bind {P : β → Prop} {f : α → Process I β} :
    (x >>= f).Returns P ↔ x.Returns fun a => (f a).Returns P := by
  induction x with
  | done a => exact Iff.rfl
  | call op next ih => exact forall_congr' fun r => ih r

/-- The value of a program that may fail satisfies `P`, if there is one. -/
def Ensures (P : α → Prop) (x : ExceptT ε (Process I) α) : Prop :=
  x.run.Returns fun result => ∀ a, result = .ok a → P a

/-- A sequence ensures what its last part does. -/
lemma ensures_bind {P : β → Prop} {x : ExceptT ε (Process I) α} {f : α → ExceptT ε (Process I) β}
    (hf : ∀ a, Ensures P (f a)) : Ensures P (x >>= f) := by
  unfold Ensures
  rw [ExceptT.run_bind, returns_bind]
  refine returns_of_forall fun result => ?_
  cases result with
  | ok a => exact hf a
  | error => exact nofun

/-- A program that only returns a value. -/
lemma ensures_pure {a : α} (h : P a) : Ensures P (pure a : ExceptT ε (Process I) α) := by
  intro b hb
  cases hb
  exact h

/-- A program that fails ensures anything. -/
lemma ensures_throw {e : ε} : Ensures P (throw e : ExceptT ε (Process I) α) := by
  intro b hb
  cases hb

end Process

/-! ## Disciplines -/

/-- How a ghost value restricts the operations of a process, and how they change it. -/
structure Discipline (I : Interface) (G : Type) where
  /-- What has to hold of the ghost value before an operation. -/
  pre : I.Op → G → Prop
  /-- The ghost value after an operation. -/
  next : (op : I.Op) → I.Res op → G → G

namespace Discipline

variable {I J : Interface} {G : Type}

/-- What a discipline says about one part of the operations. -/
def left (D : Discipline (I.sum J) G) : Discipline I G where
  pre op g := D.pre (Sum.inl op) g
  next op r g := D.next (Sum.inl op) r g

/-- A process with ghost value `g` may perform any operation, and keeps its ghost value. -/
def FreeAt (D : Discipline I G) (g : G) : Prop :=
  ∀ op, D.pre op g ∧ ∀ r, D.next op r g = g

/-- A process whose ghost value satisfies `P` may perform any operation, and its ghost value still
satisfies `P` afterwards. -/
def Closed (D : Discipline I G) (P : G → Prop) : Prop :=
  ∀ op g, P g → D.pre op g ∧ ∀ r, P (D.next op r g)

lemma closed_of_free {D : Discipline I G} (hD : ∀ g, D.FreeAt g) (P : G → Prop) : D.Closed P :=
  fun op g hg => ⟨(hD g op).1, fun r => by rwa [(hD g op).2 r]⟩

/-- The same for one part of the operations. -/
lemma Closed.left {D : Discipline (I.sum J) G} {P : G → Prop} (h : D.Closed P) : D.left.Closed P :=
  fun op g hg => h (Sum.inl op) g hg

end Discipline

namespace Process

variable {I : Interface} {α β ε G : Type} {D : Discipline I G}

/-- Started with a ghost value, the program meets every precondition, whatever its operations
return, and ends with a result and a ghost value that satisfy `Q`. -/
def Follows (D : Discipline I G) (Q : α → G → Prop) : Process I α → G → Prop
  | done a, g => Q a g
  | call op next, g => D.pre op g ∧ ∀ r, (next r).Follows D Q (D.next op r g)

variable {op : I.Op} {Q : α → G → Prop} {g : G} {Q' : α → G → Prop} {x : Process I α}
  {f : α → ExceptT ε (Process I) β} {J : Interface} {ε' : Type}

@[simp] lemma follows_perform {Q : I.Res op → G → Prop} :
    Follows D Q (perform op) g ↔ D.pre op g ∧ ∀ r, Q r (D.next op r g) := Iff.rfl

/-- A weaker conclusion. -/
lemma Follows.mono (h : ∀ a g, Q a g → Q' a g) (hx : Follows D Q x g) : Follows D Q' x g := by
  induction x generalizing g with
  | done a => exact h a g hx
  | call op next ih => exact ⟨hx.1, fun r => ih r (hx.2 r)⟩

/-- What holds of all results can be added to the conclusion. -/
lemma Follows.and_returns {R : α → Prop} (hx : Follows D Q x g) (hr : x.Returns R) :
    Follows D (fun a g' => Q a g' ∧ R a) x g := by
  induction x generalizing g with
  | done a => exact ⟨hx, hr⟩
  | call op next ih => exact ⟨hx.1, fun r => ih r (hx.2 r) (hr r)⟩

/-- Two conclusions at once. -/
lemma Follows.and (h : Follows D Q x g) (h' : Follows D Q' x g) :
    Follows D (fun a g' => Q a g' ∧ Q' a g') x g := by
  induction x generalizing g with
  | done a => exact ⟨h, h'⟩
  | call op next ih => exact ⟨h.1, fun r => ih r (h.2 r) (h'.2 r)⟩

/-- **A sequence follows the discipline** iff its first part does and leads to ghost values from
which the second part does. -/
lemma follows_bind {Q : β → G → Prop} {f : α → Process I β} :
    Follows D Q (x >>= f) g ↔ Follows D (fun a g' => Follows D Q (f a) g') x g := by
  induction x generalizing g with
  | done a => exact Iff.rfl
  | call op next ih => exact and_congr_right fun _ => forall_congr' fun r => ih r

/-- The same for programs that may fail. -/
lemma follows_bindExcept {Q : Except ε β → G → Prop} {x : ExceptT ε (Process I) α}
    (hx : Follows D (fun result g' =>
      match result with
      | .ok a => Follows D Q (f a).run g'
      | .error e => Q (.error e) g') x.run g) : Follows D Q (x >>= f).run g := by
  rw [ExceptT.run_bind, follows_bind]
  refine hx.mono fun result g' h => ?_
  cases result with
  | ok a | error e => exact h

/-- One after the other: a failure ends both, and a value is passed on. -/
lemma Follows.bindExcept {Q : Except ε β → G → Prop} {Q' : Except ε α → G → Prop}
    {x : ExceptT ε (Process I) α} (hx : Follows D Q' x.run g)
    (hE : ∀ e g', Q' (.error e) g' → Q (.error e) g')
    (hf : ∀ a g', Q' (.ok a) g' → Follows D Q (f a).run g') : Follows D Q (x >>= f).run g :=
  follows_bindExcept (hx.mono fun r g' h => by
    cases r with
    | ok a => exact hf a g' h
    | error e => exact hE e g' h)

/-- **A program of operations the discipline does not care about** follows it and leaves the
ghost value as it is. -/
lemma follows_of_free (hD : D.FreeAt g) (hQ : x.Returns fun a => Q a g) : Follows D Q x g := by
  induction x with
  | done a => exact hQ
  | call op next ih =>
    refine ⟨(hD op).1, fun r => ?_⟩
    rw [(hD op).2 r]
    exact ih r (hQ r)

/-- **A program over one part of an interface** follows a discipline iff it follows what the
discipline says about that part. -/
lemma follows_lift {D : Discipline (I.sum J) G} :
    Follows D Q (lift x) g ↔ Follows D.left Q x g := by
  induction x generalizing g with
  | done a => exact Iff.rfl
  | call op next ih => exact and_congr_right fun _ => forall_congr' fun r => ih r

/-- A program that cannot fail, as part of one that can. -/
lemma follows_liftExcept {Q : Except ε α → G → Prop} :
    Follows D Q (liftM x : ExceptT ε (Process I) α).run g ↔
      Follows D (fun a g' => Q (.ok a) g') x g :=
  follows_bind

/-- The result of an operation that may fail. -/
lemma follows_orFail {f : ε → ε'} {Q : Except ε' α → G → Prop} {x : Process I (Except ε α)} :
    Follows D Q (orFail f x).run g ↔ Follows D (fun r g' => Q (r.mapError f) g') x g :=
  follows_bind

/-! ### Programs with a value -/

/-- Started with a ghost value, the program follows the discipline; its value and the ghost value
satisfy `Q`, and if it fails the ghost value satisfies `E`. -/
def Yields (D : Discipline I G) (Q : α → G → Prop) (E : G → Prop) (x : ExceptT ε (Process I) α)
    (g : G) : Prop :=
  Follows D (fun result g' =>
    match result with
    | .ok a => Q a g'
    | .error _ => E g') x.run g

variable {E : G → Prop}

lemma yields_pure {a : α} (h : Q a g) : Yields D Q E (pure a : ExceptT ε (Process I) α) g := h

lemma Yields.mono (h : ∀ a g, Q a g → Q' a g) {x : ExceptT ε (Process I) α}
    (hx : Yields D Q E x g) : Yields D Q' E x g :=
  Follows.mono (fun result g' hresult => by
    cases result with
    | ok a => exact h a g' hresult
    | error => exact hresult) hx

/-- One after the other: the second part runs when the first has a value. -/
lemma Yields.bind {Q' : β → G → Prop} {x : ExceptT ε (Process I) α} (hx : Yields D Q E x g)
    (hf : ∀ a g', Q a g' → Yields D Q' E (f a) g') : Yields D Q' E (x >>= f) g :=
  Follows.bindExcept hx (fun _ _ h => h) hf

/-- The result of an operation that may fail. -/
lemma yields_orFail {f : ε → ε'} {x : Process I (Except ε α)} (hx : Follows D (fun result g' =>
      match result with
      | .ok a => Q a g'
      | .error _ => E g') x g) : Yields D Q E (Process.orFail f x) g :=
  follows_orFail.mpr (hx.mono fun result g' h => by
    cases result with
    | ok => exact h
    | error => exact h)

/-! ### Programs that keep a property of the ghost value -/

/-- Started with a ghost value that satisfies `P`, the program follows the discipline and ends with
such a ghost value. -/
def Keeps (D : Discipline I G) (P : G → Prop) (x : Process I α) : Prop :=
  ∀ g, P g → Follows D (fun _ g' => P g') x g

variable {P : G → Prop}

lemma keeps_pure {a : α} : Keeps D P (pure a) := fun _ hg => hg

/-- One after the other. -/
lemma Keeps.bind {f : α → Process I β} (hx : Keeps D P x) (hf : ∀ a, Keeps D P (f a)) :
    Keeps D P (x >>= f) :=
  fun g hg => follows_bind.mpr ((hx g hg).mono fun a g' hg' => hf a g' hg')

lemma keeps_throw {e : ε} : Keeps D P (throw e : ExceptT ε (Process I) α).run := fun _ hg => hg

/-- One after the other, up to a failure. -/
lemma Keeps.bindExcept {x : ExceptT ε (Process I) α} (hx : Keeps D P x.run)
    (hf : ∀ a, Keeps D P (f a).run) : Keeps D P (x >>= f).run :=
  fun g hg => follows_bindExcept ((hx g hg).mono fun r g' hg' => by
    cases r with
    | ok a => exact hf a g' hg'
    | error => exact hg')

/-- A program that cannot fail, as part of one that can. -/
lemma Keeps.except (hx : Keeps D P x) : Keeps D P (liftM x : ExceptT ε (Process I) α).run :=
  fun g hg => follows_liftExcept.mpr ((hx g hg).mono fun _ _ h => h)

/-- A result that may be a failure. -/
lemma Keeps.orFail {f : ε → ε'} {x : Process I (Except ε α)} (hx : Keeps D P x) :
    Keeps D P (orFail f x).run :=
  fun g hg => follows_orFail.mpr ((hx g hg).mono fun _ _ h => h)

/-- A program over one part of an interface. -/
lemma Keeps.lift {D : Discipline (I.sum J) G} (hx : Keeps D.left P x) : Keeps D P (lift x) :=
  fun g hg => follows_lift.mpr (hx g hg)

/-- A program of operations that all keep the property. -/
lemma keeps_of_closed (hD : D.Closed P) {x : Process I α} : Keeps D P x := by
  induction x with
  | done a => exact keeps_pure
  | call op next ih => exact fun g hg => ⟨(hD op g hg).1, fun r => ih r _ ((hD op g hg).2 r)⟩

/-! ### Programs with some operations only -/

/-- The program performs only operations that satisfy `allowed`. -/
def Performs (allowed : I.Op → Prop) : Process I α → Prop
  | done _ => True
  | call op next => allowed op ∧ ∀ r, (next r).Performs allowed

variable {allowed : I.Op → Prop}

/-- Every program performs operations. -/
lemma performs_all (x : Process I α) : x.Performs fun _ => True := by
  induction x with
  | done a => exact trivial
  | call op next ih => exact ⟨trivial, ih⟩

lemma performs_pure {a : α} : (pure a : Process I α).Performs allowed := trivial

lemma performs_perform (h : allowed op) : (perform op).Performs allowed :=
  ⟨h, fun _ => trivial⟩

/-- One after the other. -/
lemma Performs.bind {f : α → Process I β} (hx : x.Performs allowed)
    (hf : ∀ a, (f a).Performs allowed) : (x >>= f).Performs allowed := by
  induction x with
  | done a => exact hf a
  | call op next ih => exact ⟨hx.1, fun r => ih r (hx.2 r)⟩

lemma performs_throw {e : ε} : (throw e : ExceptT ε (Process I) α).run.Performs allowed := trivial

/-- One after the other, up to a failure. -/
lemma Performs.bindExcept {x : ExceptT ε (Process I) α} (hx : x.run.Performs allowed)
    (hf : ∀ a, (f a).run.Performs allowed) : (x >>= f).run.Performs allowed :=
  Performs.bind hx fun r => by
    cases r with
    | ok a => exact hf a
    | error => exact trivial

/-- A program that cannot fail, as part of one that can. -/
lemma Performs.except (hx : x.Performs allowed) :
    (liftM x : ExceptT ε (Process I) α).run.Performs allowed :=
  Performs.bind hx fun _ => trivial

/-- A result that may be a failure. -/
lemma Performs.orFail {f : ε → ε'} {x : Process I (Except ε α)} (hx : x.Performs allowed) :
    (Process.orFail f x).run.Performs allowed :=
  Performs.bind hx fun _ => trivial

/-- A program with fewer operations. -/
lemma Performs.mono {allowed' : I.Op → Prop} (h : ∀ op, allowed op → allowed' op)
    (hx : x.Performs allowed) : x.Performs allowed' := by
  induction x with
  | done a => exact trivial
  | call op next ih => exact ⟨h op hx.1, fun r => ih r (hx.2 r)⟩

/-- **What every allowed operation keeps, a program of them keeps.** -/
lemma Performs.keeps (hx : x.Performs allowed) (hop : ∀ op, allowed op → Keeps D P (perform op)) :
    Keeps D P x := by
  induction x with
  | done a => exact keeps_pure
  | call op next ih =>
    intro g hg
    obtain ⟨hpre, hnext⟩ := hop op hx.1 g hg
    exact ⟨hpre, fun r => ih r (hx.2 r) _ (hnext r)⟩

/-- A program performs what its discipline permits. -/
lemma Follows.performs (hpre : ∀ op g, D.pre op g → allowed op) :
    ∀ {g : G}, Follows D Q x g → x.Performs allowed := by
  induction x with
  | done a => exact fun _ => trivial
  | call op next ih => exact fun h => ⟨hpre _ _ h.1, fun r => ih r (h.2 r)⟩

end Process

/-! ## Systems -/

/-- A shared state with what may happen to it. -/
structure System (I : Interface) where
  /-- The shared state. -/
  State : Type
  /-- Where a process runs. -/
  Site : Type
  /-- What can be started. -/
  Job : Type
  /-- What the environment decides while an operation is performed. -/
  Choice : Type
  /-- What the environment does by itself. -/
  Event : Type
  /-- Start a job, if it can be started now. -/
  start : Job → State → Option (State × Site × Process I Unit)
  /-- Perform an operation of a process; `none` when it has to wait. -/
  exec : (op : I.Op) → ℕ → Site → Choice → State → Option (State × I.Res op)
  /-- What a process that goes away leaves behind. -/
  leave : ℕ → Site → State → State
  /-- The operation is performed even when its process has gone away meanwhile. -/
  detached : I.Op → Bool
  /-- A step of the environment. -/
  event : Event → State → Option State

namespace System

variable {I : Interface} {S : System I} {G : Type}

/-- The shared state and all processes that were ever started, in that order. -/
structure Config (S : System I) where
  /-- The shared state. -/
  state : S.State
  /-- The processes with their sites. -/
  threads : List (S.Site × Process I Unit)

/-- Adding a process leaves the others where they are. -/
lemma getElem?_concat_of_ne {α : Type*} {l : List α} {i : ℕ} (a : α) (h : i ≠ l.length) :
    (l ++ [a])[i]? = l[i]? := by
  rcases Nat.lt_or_gt_of_ne h with hlt | hgt
  · exact List.getElem?_append_left hlt
  · rw [List.getElem?_eq_none (by rw [List.length_append]; exact hgt),
      List.getElem?_eq_none (by omega)]

/-- The kinds of steps. -/
inductive Label (S : System I)
  | start (job : S.Job)
  | run (who : ℕ) (choice : S.Choice)
  | kill (who : ℕ)
  | abandon (who : ℕ)
  | event (e : S.Event)

/-- A condition on the steps of a run. -/
abbrev Condition (S : System I) := S.Config → S.Label → Prop

/-- One step. -/
def Config.step (c : S.Config) : S.Label → Option S.Config
  | .start job =>
    (S.start job c.state).map fun (state, site, program) =>
      ⟨state, c.threads ++ [(site, program)]⟩
  | .run who choice =>
    match c.threads[who]? with
    | some (site, .call op next) =>
      (S.exec op who site choice c.state).map fun (state, r) =>
        ⟨state, c.threads.set who (site, next r)⟩
    | _ => none
  | .kill who =>
    match c.threads[who]? with
    | some (site, _) => some ⟨S.leave who site c.state, c.threads.set who (site, .done ())⟩
    | none => none
  | .abandon who =>
    match c.threads[who]? with
    | some (site, .call op _) =>
      if S.detached op then
        some ⟨S.leave who site c.state, c.threads.set who (site, .call op fun _ => .done ())⟩
      else none
    | _ => none
  | .event e => (S.event e c.state).map fun state => { c with state := state }

/-- Whether something is found, and has a property that can be checked, can be checked. -/
instance decidableExistsFound {α : Type*} {p : α → Prop} [DecidablePred p] :
    (found : Option α) → Decidable (∃ a, found = some a ∧ p a)
  | none => isFalse fun ⟨_, h, _⟩ => nomatch h
  | some a => decidable_of_iff (p a)
    ⟨fun h => ⟨a, rfl, h⟩, fun ⟨_, hfound, h⟩ => Option.some.inj hfound ▸ h⟩

/-- The steps of a list in turn. -/
def Config.run (c : S.Config) : List S.Label → Option S.Config
  | [] => some c
  | label :: labels => (c.step label).bind fun c' => c'.run labels

/-- The steps of a list in turn, as long as they have the property `good`. -/
def Config.runIf (good : S.Condition) [∀ c label, Decidable (good c label)]
    (c : S.Config) : List S.Label → Option S.Config
  | [] => some c
  | label :: labels =>
    if good c label then (c.step label).bind fun c' => c'.runIf good labels else none

/-- The configurations that are reached by steps with the property `good`. -/
inductive Reach (good : S.Condition) (c₀ : S.Config) : S.Config → Prop
  | refl : Reach good c₀ c₀
  | step {c c' : S.Config} (label : S.Label) (h : Reach good c₀ c) (hgood : good c label)
      (hstep : c.step label = some c') : Reach good c₀ c'

variable {good : S.Condition} {labels : List S.Label}

/-- One reach after another. -/
lemma Reach.trans {c₀ c c' : S.Config} (h : Reach good c₀ c) (h' : Reach good c c') :
    Reach good c₀ c' := by
  induction h' with
  | refl => exact h
  | step label _ hgood hstep ih => exact .step label ih hgood hstep

/-- What a list of steps leads to is reached. -/
lemma Config.reach_of_run :
    ∀ {c c' : S.Config}, c.run labels = some c' → Reach (fun _ _ => True) c c' := by
  induction labels with
  | nil =>
    intro c c' h
    cases h
    exact .refl
  | cons label labels ih =>
    intro c c' h
    obtain ⟨c₁, hstep, hrun⟩ := Option.bind_eq_some_iff.mp h
    exact (Reach.step label .refl trivial hstep).trans (ih hrun)

/-- The same for steps with a property. -/
lemma Config.reach_of_runIf [∀ c label, Decidable (good c label)] :
    ∀ {c c' : S.Config}, c.runIf good labels = some c' → Reach good c c' := by
  induction labels with
  | nil =>
    intro c c' h
    cases h
    exact .refl
  | cons label labels ih =>
    intro c c' h
    unfold Config.runIf at h
    split_ifs at h with hgood
    obtain ⟨c₁, hstep, hrun⟩ := Option.bind_eq_some_iff.mp h
    exact (Reach.step label .refl hgood hstep).trans (ih hrun)

/-! ## Invariants over all interleavings -/

/-- A discipline for the processes of a system: the ghost value of one that is over, and those
that suit a site, which no operation leaves. -/
structure Protocol (S : System I) (G : Type) extends Discipline I G where
  dead : G
  home : S.Site → G → Prop
  home_next : ∀ {site : S.Site} {op : I.Op} {g : G} (r : I.Res op), home site g → pre op g →
    home site (next op r g)


section Invariants

variable {P : Protocol S G} {good : S.Condition} {Inv : S.State → (ℕ → G) → Prop}

/-- The ghost value of a process: `dead` once it is over, and before that one that suits its site
and from which the rest of its program follows the discipline. -/
def Fits (P : Protocol S G) (site : S.Site) : Process I Unit → G → Prop
  | .done _, g => g = P.dead
  | .call op next, g =>
    P.home site g ∧ Process.Follows P.toDiscipline (fun _ _ => True) (.call op next) g

/-- Every process has a ghost value that fits, and `dead` is that of one not yet started. -/
def Linked (P : Protocol S G) (c : S.Config) (ghosts : ℕ → G) : Prop :=
  ∀ who, match c.threads[who]? with
    | some thread => Fits P thread.1 thread.2 (ghosts who)
    | none => ghosts who = P.dead

variable {c : S.Config} {ghosts : ℕ → G} {who : ℕ} {site : S.Site} {program : Process I Unit}
  {g : G} {state : S.State}

/-- Before any process is started, all ghost values are `dead`. -/
lemma Linked.of_nil (h : c.threads = []) : Linked P c fun _ => P.dead := by
  intro who
  rw [h]
  rfl

/-- **An invariant that every kind of step keeps**, given the protocol: starting a job, an
operation, forgetting or losing a process, and a step of the environment. -/
structure Maintained (P : Protocol S G) (good : S.Condition)
    (Inv : S.State → (ℕ → G) → Prop) : Prop where
  start : ∀ {c : S.Config} {ghosts : ℕ → G} {job : S.Job} {state : S.State} {site : S.Site}
    {program : Process I Unit}, Inv c.state ghosts → Linked P c ghosts →
    good c (.start job) → S.start job c.state = some (state, site, program) →
    ∃ g, P.home site g ∧ Process.Follows P.toDiscipline (fun _ _ => True) program g ∧
      Inv state (Function.update ghosts c.threads.length g)
  run : ∀ {c : S.Config} {ghosts : ℕ → G} {who : ℕ} {choice : S.Choice} {site : S.Site}
    {op : I.Op} {next : I.Res op → Process I Unit} {state : S.State} {r : I.Res op},
    Inv c.state ghosts → Linked P c ghosts → good c (.run who choice) →
    c.threads[who]? = some (site, .call op next) → P.pre op (ghosts who) →
    S.exec op who site choice c.state = some (state, r) →
    Inv state (Function.update ghosts who (P.next op r (ghosts who)))
  forget : ∀ {state : S.State} {ghosts : ℕ → G} (who : ℕ), Inv state ghosts →
    Inv state (Function.update ghosts who P.dead)
  leave : ∀ {state : S.State} {ghosts : ℕ → G} (who : ℕ) (site : S.Site), Inv state ghosts →
    Inv (S.leave who site state) ghosts
  event : ∀ {c : S.Config} {ghosts : ℕ → G} {e : S.Event} {state : S.State}, Inv c.state ghosts →
    Linked P c ghosts → good c (.event e) → S.event e c.state = some state →
    Inv state ghosts

/-- A process that is not over suits its site, and follows the discipline from its ghost value. -/
lemma Linked.follows (h : Linked P c ghosts) {op : I.Op} {next : I.Res op → Process I Unit}
    (hwho : c.threads[who]? = some (site, .call op next)) :
    P.home site (ghosts who) ∧ P.pre op (ghosts who) ∧
      ∀ r, Process.Follows P.toDiscipline (fun _ _ => True) (next r)
        (P.next op r (ghosts who)) := by
  have := h who
  rw [hwho] at this
  exact this

/-- Replacing a process and its ghost value keeps the link. -/
lemma Linked.set (h : Linked P c ghosts) (hwho : who < c.threads.length)
    (hg : Fits P site program g) : Linked P (⟨state, c.threads.set who (site, program)⟩ : S.Config)
      (Function.update ghosts who g) := by
  intro i
  by_cases hi : i = who
  · subst hi
    rw [List.getElem?_set_self hwho, Function.update_self]
    exact hg
  · rw [List.getElem?_set_ne (Ne.symm hi), Function.update_of_ne hi]
    exact h i

/-- A process that goes on has a ghost value from which it follows the discipline, and one that
is over can be forgotten. -/
lemma exists_fits (hM : Maintained P good Inv) (hhome : P.home site g)
    (hprogram : Process.Follows P.toDiscipline (fun _ _ => True) program g)
    (hinv : Inv state (Function.update ghosts who g)) :
    ∃ g', Fits P site program g' ∧ Inv state (Function.update ghosts who g') := by
  cases program with
  | done =>
    refine ⟨P.dead, rfl, ?_⟩
    have := hM.forget who hinv
    rwa [Function.update_idem] at this
  | call => exact ⟨g, ⟨hhome, hprogram⟩, hinv⟩

/-- One step keeps a maintained invariant. -/
lemma Maintained.step (hM : Maintained P good Inv) {c' : S.Config} {label : S.Label}
    (hlinked : Linked P c ghosts) (hinv : Inv c.state ghosts) (hgood : good c label)
    (hstep : c.step label = some c') : ∃ ghosts', Linked P c' ghosts' ∧ Inv c'.state ghosts' := by
  cases label with
  | start =>
    simp only [Config.step, Option.map_eq_some_iff] at hstep
    obtain ⟨⟨state, site, program⟩, hstart, rfl⟩ := hstep
    obtain ⟨g, hhome, hg, hinv'⟩ := hM.start hinv hlinked hgood hstart
    obtain ⟨g', hfits, hinv'⟩ := exists_fits hM hhome hg hinv'
    refine ⟨_, ?_, hinv'⟩
    intro i
    by_cases hi : i = c.threads.length
    · subst hi
      rw [List.getElem?_concat_length, Function.update_self]
      exact hfits
    · rw [Function.update_of_ne hi, getElem?_concat_of_ne _ hi]
      exact hlinked i
  | run =>
    simp only [Config.step] at hstep
    split at hstep
    · rename_i site op next hwho
      obtain ⟨⟨state, r⟩, hexec, rfl⟩ := Option.map_eq_some_iff.mp hstep
      obtain ⟨hhome, hpre, hnext⟩ := hlinked.follows hwho
      have hinv' := hM.run hinv hlinked hgood hwho hpre hexec
      obtain ⟨g', hfits, hinv'⟩ := exists_fits hM (P.home_next r hhome hpre) (hnext r) hinv'
      exact ⟨_, hlinked.set (List.getElem?_eq_some_iff.mp hwho).1 hfits, hinv'⟩
    · cases hstep
  | kill who =>
    simp only [Config.step] at hstep
    split at hstep
    · rename_i site program hwho
      cases hstep
      exact ⟨_, hlinked.set (List.getElem?_eq_some_iff.mp hwho).1 rfl,
        hM.forget who (hM.leave who site hinv)⟩
    · cases hstep
  | abandon who =>
    simp only [Config.step] at hstep
    split at hstep
    · rename_i site op next hwho
      split_ifs at hstep
      cases hstep
      refine ⟨ghosts, ?_, hM.leave who site hinv⟩
      obtain ⟨hhome, hpre, -⟩ := hlinked.follows hwho
      have hfits : Fits P site (.call op fun _ => .done ()) (ghosts who) :=
        ⟨hhome, hpre, fun _ => trivial⟩
      rw [← Function.update_eq_self who ghosts]
      exact hlinked.set (List.getElem?_eq_some_iff.mp hwho).1 hfits
    · cases hstep
  | event =>
    obtain ⟨state, hevent, rfl⟩ := Option.map_eq_some_iff.mp hstep
    exact ⟨ghosts, hlinked, hM.event hinv hlinked hgood hevent⟩

/-- **A maintained invariant holds in every configuration that is reached.** -/
theorem Maintained.reach (hM : Maintained P good Inv) {c₀ : S.Config} (hlinked : Linked P c₀ ghosts)
    (hinv : Inv c₀.state ghosts) (h : Reach good c₀ c) :
    ∃ ghosts', Linked P c ghosts' ∧ Inv c.state ghosts' := by
  induction h with
  | refl => exact ⟨ghosts, hlinked, hinv⟩
  | step label _ hgood hstep ih =>
    obtain ⟨ghosts', hlinked', hinv'⟩ := ih
    exact hM.step hlinked' hinv' hgood hstep

end Invariants

end System
