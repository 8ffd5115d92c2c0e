import VoxTrader.Runtime.Readings
import VoxTrader.Runtime.ReadyAgreement

/-!
# The identities of a request

The broker's identities of a request are written by two parties: the call that dispatched it adds
those of the acknowledgement, and a reconciliation adds those of the order it took for evidence. A
new identity replaces a known one without a check, so the identity of a request can change. It does
when the broker names the request by two orders, and only then.

## Main definitions

* `RuntimeDb.LinksGrow` — no link is lost.
* `Names` — the identities the broker gives to the requests.
* `Names.Tells` — an operation and its result name requests in this way.
* `LinksKept` — every known identity is as before.

## Main results

* `linksGrow_reach` — no run loses a link.
* `resolveMutation_named` — evidence that names the requests makes links that do.
* `identities_never_change` — when the broker names every request by one order and one stop, a known
  identity never changes.
-/

namespace VoxTrader.Runtime

open System

/-! ## Which links an operation writes -/

variable {links : BrokerIdentityLinks} {scopeKey : String}

namespace RuntimeDb

/-- The two databases have the same links. -/
structure SameLinks (db db' : RuntimeDb) : Prop where
  identities : db'.identities = db.identities
  operationLinks : db'.operationLinks = db.operationLinks
  fillLinks : db'.fillLinks = db.fillLinks

/-- Some links were added, one after another, and no others. -/
def Learns (written : List BrokerIdentityLinks) (db db' : RuntimeDb) : Prop :=
  ∃ scopeKey db₁ db₂, SameLinks db db₁ ∧
    written.foldlM (fun db link => db.upsertLinks scopeKey link) db₁ = .ok db₂ ∧ SameLinks db₂ db'

variable {db db' db'' : RuntimeDb}

lemma Leaves.sameLinks {written : Table → Bool} (h : Leaves written db db')
    (hw : ∀ table, table.ofLinks = true → written table = false) : SameLinks db db' :=
  ⟨h .identities (hw _ rfl), h .operationLinks (hw _ rfl), h .fillLinks (hw _ rfl)⟩

lemma SameLinks.refl (db : RuntimeDb) : SameLinks db db := ⟨rfl, rfl, rfl⟩

lemma SameLinks.learns (h : SameLinks db db') : Learns [] db db' :=
  ⟨"", db', db', h, rfl, .refl _⟩

lemma SameLinks.identityOf (h : SameLinks db db') (id : String) :
    db'.identityOf id = db.identityOf id := by
  rw [RuntimeDb.identityOf, RuntimeDb.identityOf, h.identities]

/-- An acknowledgement adds its links. -/
lemma learns_upsert {epoch : ℕ}
    (h : db.upsertIdentityLinks scopeKey links epoch = .ok db') : Learns [links] db db' := by
  simp only [upsertIdentityLinks, Except.seq_eq_ok] at h
  obtain ⟨_, _, h⟩ := h
  refine ⟨scopeKey, db, db', .refl _, ?_, .refl _⟩
  rw [List.foldlM_cons, h]
  rfl

/-- A commit adds its links. -/
lemma learns_commit {checkpoint : ReconciliationCheckpoint} {resolved : List MutationRecord}
    {links : List BrokerIdentityLinks} {state : RuntimeState} {reason : ReasonCode}
    (h : db.commitReconciliation checkpoint resolved links state reason = .ok db') :
    Learns links db db' := by
  simp only [commitReconciliation, Except.seq_eq_ok, Except.exists_unit_ok] at h
  obtain ⟨_, db₁, hresolved, db₂, hlinks, h⟩ := h
  cases h
  refine ⟨_, db₁, db₂, ?_, hlinks, ⟨rfl, rfl, rfl⟩⟩
  exact (Leaves.foldlM (fun _ _ _ => commitResolved_leaves) hresolved).sameLinks
    fun table h => by cases table <;> first | rfl | cases h

end RuntimeDb

/-- The links an operation writes. -/
def writtenLinks {R : Interface} : (full R).Op → List BrokerIdentityLinks
  | .inl (.inl (.inl (.store (.upsertIdentityLinks links _)))) => [links]
  | .inl (.inr (.commitReconciliation _ _ links _ _)) => links
  | _ => []

section

variable {R : Interface} {side : RiskSide R} {scope : RuntimeScope} {who : ℕ} {site : Site}
  {choice : Choice side.Choice} {w w' : World side.State}

/-- **An operation adds its links, or none.** -/
lemma execOp_learns {op : (full R).Op} {r : (full R).Res op}
    (h : execOp side scope op who site choice w = some (w', r)) :
    w.db.Learns [] w'.db ∨ w.db.Learns (writtenLinks op) w'.db := by
  have hnone : (∀ table : RuntimeDb.Table, table.ofLinks = true → writtenBy op table = false) →
      w.db.Learns [] w'.db := fun hw => ((execOp_leaves h).sameLinks hw).learns
  rcases op with ((op | op) | op) | op
  · cases op with
    | store op =>
      cases op with
      | upsertIdentityLinks =>
        rcases transaction_cases (Option.some.inj h) with ⟨rfl, _⟩ | ⟨a, db, hop, rfl, -⟩
        · exact .inl (RuntimeDb.SameLinks.refl _).learns
        · obtain ⟨_, hok, hdb⟩ := Except.map_eq_ok.mp hop
          cases hdb
          exact .inr (RuntimeDb.learns_upsert hok)
      | _ => exact .inl (hnone fun table ht => by cases table <;> first | rfl | cases ht)
    | _ => exact .inl (hnone fun _ _ => rfl)
  · exact .inl (hnone fun _ _ => rfl)
  · cases op with
    | activeOrders => exact .inl (hnone fun _ _ => rfl)
    | commitReconciliation =>
      rcases transaction_cases (Option.some.inj h) with ⟨rfl, _⟩ | ⟨a, db, hop, rfl, -⟩
      · exact .inl (RuntimeDb.SameLinks.refl _).learns
      · obtain ⟨_, hcommit, hdb⟩ := Except.map_eq_ok.mp hop
        cases hdb
        exact .inr (RuntimeDb.learns_commit hcommit)
  · cases op <;>
      exact .inl (hnone fun table ht => by cases table <;> first | rfl | cases ht)

end

/-! ## No link is lost -/

/-- A row has an identity wherever another has one. -/
structure IdentityRow.Covers (row' row : IdentityRow) : Prop where
  order : row.brokerOrderId.isSome → row'.brokerOrderId.isSome
  replacement : row.replacementBrokerOrderId.isSome → row'.replacementBrokerOrderId.isSome
  stop : row.brokerStopOrderId.isSome → row'.brokerStopOrderId.isSome

/-- No identity becomes unknown, and the operations and fills of the requests only become more. -/
structure RuntimeDb.LinksGrow (db db' : RuntimeDb) : Prop where
  identities : ∀ id row, db.identityOf id = some row →
    ∃ row', db'.identityOf id = some row' ∧ row'.Covers row
  operations : db.operationLinks ⊆ db'.operationLinks
  fills : db.fillLinks ⊆ db'.fillLinks

/-- What is added leaves what is there. -/
lemma subset_foldl_insertOrIgnore {κ : Type} [DecidableEq κ] {key : LinkedId → κ}
    {make : String → LinkedId} {ids : List String} :
    ∀ rows : List LinkedId,
      rows ⊆ ids.foldl (fun rows id => RuntimeDb.insertOrIgnore key rows (make id)) rows := by
  induction ids with
  | nil => exact fun _ => List.Subset.refl _
  | cons id rest ih =>
    intro rows
    refine List.Subset.trans ?_ (ih _)
    change rows ⊆ RuntimeDb.insertOrIgnore key rows (make id)
    unfold RuntimeDb.insertOrIgnore
    split_ifs
    · exact List.Subset.refl _
    · exact List.subset_append_left _ _

variable {written : List BrokerIdentityLinks}

namespace RuntimeDb

variable {db db' db'' : RuntimeDb}

lemma SameLinks.grow (h : SameLinks db db') : LinksGrow db db' := by
  refine ⟨fun id row hrow => ⟨row, (h.identityOf id).trans hrow, ?_⟩, ?_, ?_⟩
  · exact ⟨fun h => h, fun h => h, fun h => h⟩
  · exact fun _ hx => h.operationLinks ▸ hx
  · exact fun _ hx => h.fillLinks ▸ hx

lemma LinksGrow.refl (db : RuntimeDb) : LinksGrow db db := (SameLinks.refl db).grow

lemma LinksGrow.trans (h : LinksGrow db db') (h' : LinksGrow db' db'') : LinksGrow db db'' := by
  refine ⟨fun id row hrow => ?_, List.Subset.trans h.operations h'.operations,
    List.Subset.trans h.fills h'.fills⟩
  obtain ⟨row₁, hrow₁, hcovers⟩ := h.identities id row hrow
  obtain ⟨row₂, hrow₂, hcovers'⟩ := h'.identities id row₁ hrow₁
  exact ⟨row₂, hrow₂, ⟨fun h => hcovers'.order (hcovers.order h),
    fun h => hcovers'.replacement (hcovers.replacement h), fun h => hcovers'.stop (hcovers.stop h)⟩⟩

/-- A row that learned something has what it had. -/
lemma learned_covers {row : IdentityRow} :
    (IdentityRow.learned scopeKey links (some row)).Covers row := by
  refine ⟨fun h => ?_, fun h => ?_, fun h => ?_⟩
  all_goals
    simp only [IdentityRow.learned, Option.isSome_or, h, Bool.or_true]

/-- Adding links loses none. -/
lemma upsertLinks_grow (h : db.upsertLinks scopeKey links = .ok db') : LinksGrow db db' := by
  have hrows := identityOf_upsertLinks h
  simp only [upsertLinks, Except.seq_eq_ok, Except.exists_unit_ok] at h
  have hdb := Except.ok.inj h.2
  refine ⟨fun id row hrow => ?_, ?_, ?_⟩
  · rw [hrows id]
    split_ifs with hid
    · rw [← hid, hrow]
      exact ⟨_, rfl, learned_covers⟩
    · exact ⟨row, hrow, ⟨fun h => h, fun h => h, fun h => h⟩⟩
  all_goals
    rw [← hdb]
    exact subset_foldl_insertOrIgnore _

/-- What depends on the links only and is kept by every link that is added, is kept. -/
lemma Learns.keeps {Q : RuntimeDb → Prop} (hsame : ∀ {db db'}, SameLinks db db' → Q db → Q db')
    (hupsert : ∀ {scopeKey db db'}, ∀ links ∈ written, db.upsertLinks scopeKey links = .ok db' →
      Q db → Q db') (h : Learns written db db') (hdb : Q db) : Q db' := by
  obtain ⟨scopeKey, db₁, db₂, hfirst, hfold, hlast⟩ := h
  refine hsame hlast ?_
  replace hdb := hsame hfirst hdb
  clear hfirst hlast
  induction written generalizing db₁ with
  | nil =>
    cases hfold
    exact hdb
  | cons links rest ih =>
    rw [List.foldlM_cons, Except.seq_eq_ok] at hfold
    obtain ⟨db₃, hlinks, hrest⟩ := hfold
    exact ih (fun link hlink => hupsert link (List.mem_cons_of_mem _ hlink)) db₃ hrest
      (hupsert links List.mem_cons_self hlinks hdb)

/-- Links are only added. -/
lemma Learns.grow (h : Learns written db db') : LinksGrow db db' := by
  obtain ⟨scopeKey, db₁, db₂, hsame, hfold, hsame'⟩ := h
  refine (hsame.grow.trans ?_).trans hsame'.grow
  exact Except.foldlM_rel (R := LinksGrow) .refl (fun _ _ _ => .trans)
    (fun _ _ _ => upsertLinks_grow) hfold

end RuntimeDb

section

variable {R : Interface} {side : RiskSide R} {scope : RuntimeScope} {port : RiskPort R}

variable {c c' : (Timeline side scope port).Config}

/-- Apart from its operation a step leaves the database alone. -/
lemma step_db {label : (Timeline side scope port).Label} (h : TracedStep c label c') :
    c'.state.state.db = c.state.state.db ∧ c'.state.trace = c.state.trace ∨
    ∃ (who : ℕ) (choice : Choice side.Choice) (site : Site) (op : (full R).Op)
      (next : (full R).Res op → Process (full R) Unit) (r : (full R).Res op),
      c.threads[who]? = some (site, .call op next) ∧
      execOp side scope op who site choice c.state.state = some (c'.state.state, r) ∧
      c'.state.trace = ⟨who, site, op, r⟩ :: c.state.trace := by
  cases h with
  | start hstart =>
    obtain ⟨⟨_, rfl⟩, -, -⟩ := beginJob_frame hstart
    exact .inl ⟨rfl, rfl⟩
  | run hthread hexec => exact .inr ⟨_, _, _, _, _, _, hthread, hexec, rfl⟩
  | kill hthread | abandon hthread hdetached => exact .inl ⟨rfl, rfl⟩
  | @event e state hevent =>
    cases e with
    | newCoordinator | broker book =>
      cases hevent
      exact .inl ⟨rfl, rfl⟩

/-- **No run loses a link.** -/
theorem linksGrow_reach {good : (Timeline side scope port).Condition} (h : Reach good c c') :
    c.state.state.db.LinksGrow c'.state.state.db := by
  induction h with
  | refl => exact .refl _
  | step label _ _ hstep ih =>
    refine ih.trans ?_
    rcases step_db (tracedStep_of_step hstep) with ⟨hdb, -⟩ | ⟨_, _, _, _, _, _, _, hexec, -⟩
    · rw [hdb]
      exact .refl _
    · exact (execOp_learns hexec).elim RuntimeDb.Learns.grow RuntimeDb.Learns.grow

end

/-! ## The names of the requests -/

/-- The identities the broker gives to the requests: the order a request is about, and its stop. -/
structure Names where
  order : String → String
  stop : String → String

namespace Names

variable (names : Names)

/-- The identities of a request are its names. -/
structure Fit (id : String) (order replacement stop : Option String) : Prop where
  order : ∀ v ∈ order, v = names.order id
  replacement : ∀ v ∈ replacement, v = names.order id
  stop : ∀ v ∈ stop, v = names.stop id

/-- Links that name their request. -/
abbrev FitLinks (links : BrokerIdentityLinks) : Prop :=
  names.Fit links.logicalRequestId links.brokerOrderId links.replacementBrokerOrderId
    links.brokerStopOrderId

/-- Links that all do. -/
abbrev FitAll (linked : List BrokerIdentityLinks) : Prop := ∀ links ∈ linked, names.FitLinks links

/-- A row that names its request. -/
abbrev FitRow (row : IdentityRow) : Prop :=
  names.Fit row.logicalRequestId row.brokerOrderId row.replacementBrokerOrderId
    row.brokerStopOrderId

/-- All links of a database name their requests. -/
def FitDb (db : RuntimeDb) : Prop := ∀ row ∈ db.identities, names.FitRow row

/-- An order that carries the id of a request is the one the request is named by. -/
def FitOrder (order : OrderFact) : Prop :=
  ∀ id ∈ order.logicalRequestId, order.brokerOrderId = names.order id

/-- **What an operation and its result say about the requests fits the names**: the links of an
acknowledgement, the order that was asked for, and the active orders. -/
def Tells {R : Interface} (op : (full R).Op) (r : (full R).Res op) : Prop :=
  match op, r with
  | .inl (.inl (.inl (.store (.upsertIdentityLinks links _)))), _ => names.FitLinks links
  | .inl (.inl (.inl (.external (.orderState _ _)))), .ok (some order) => names.FitOrder order
  | .inl (.inr .activeOrders), .ok orders => ∀ order ∈ orders, names.FitOrder order
  | _, _ => True

variable {names}

variable {scopeKey : String} {links : BrokerIdentityLinks} {db db' : RuntimeDb}

/-- Links that are added to a row that fits leave one that fits. -/
lemma fitRow_learned (hlinks : names.FitLinks links) {old : Option IdentityRow}
    (hold : ∀ row ∈ old, names.FitRow row ∧ row.logicalRequestId = links.logicalRequestId) :
    names.FitRow (.learned scopeKey links old) := by
  cases old with
  | none => exact hlinks
  | some row =>
    obtain ⟨hrow, hid⟩ := hold row rfl
    have hpick : ∀ {new known : Option String} {name : String}, (∀ v ∈ new, v = name) →
        (∀ v ∈ known, v = name) → ∀ v ∈ new.or known, v = name := by
      intro new known name hnew hknown v hv
      rcases Option.or_eq_some_iff.mp hv with hv | ⟨-, hv⟩
      · exact hnew v hv
      · exact hknown v hv
    rw [FitLinks, ← hid] at hlinks
    exact ⟨hpick hlinks.order hrow.order, hpick hlinks.replacement hrow.replacement,
      hpick hlinks.stop hrow.stop⟩

/-- The links of a database fit, by request. -/
lemma fitDb_iff : names.FitDb db ↔ ∀ id row, db.identityOf id = some row → names.FitRow row := by
  refine ⟨fun h id row hrow => h row (Rows.mem_of_select hrow).1, fun h row hrow => ?_⟩
  exact h row.logicalRequestId row ((Rows.select_eq_some db.identityIds).mpr ⟨hrow, rfl⟩)

lemma fitDb_of_sameLinks (h : db.SameLinks db') (hfit : names.FitDb db) :
    names.FitDb db' := fun row hrow => hfit row (h.identities ▸ hrow)

lemma fitDb_upsertLinks (hlinks : names.FitLinks links)
    (h : db.upsertLinks scopeKey links = .ok db') (hfit : names.FitDb db) : names.FitDb db' := by
  refine fitDb_iff.mpr fun id row hrow => ?_
  rw [identityOf_upsertLinks h id] at hrow
  split_ifs at hrow
  · cases hrow
    refine fitRow_learned hlinks fun old hold => ?_
    exact ⟨fitDb_iff.mp hfit _ old hold, (Rows.mem_of_select hold).2⟩
  · exact fitDb_iff.mp hfit id row hrow

/-- **Links that fit leave a database that fits.** -/
lemma fitDb_learns (hwritten : names.FitAll written)
    (h : db.Learns written db') (hfit : names.FitDb db) : names.FitDb db' :=
  h.keeps fitDb_of_sameLinks (fun links hlinks => fitDb_upsertLinks (hwritten links hlinks)) hfit

/-- The links that are read from a database that fits. -/
lemma fitLinks_read (hfit : names.FitDb db) : names.FitAll (db.allIdentityLinks scopeKey) := by
  intro links hlinks
  obtain ⟨row, hrow, -, rfl⟩ := RuntimeDb.mem_allIdentityLinks.mp hlinks
  exact hfit row hrow

end Names

/-! ## What evidence makes of the names -/

namespace Names

variable {names : Names} {mutation record : MutationRecord} {existing links : BrokerIdentityLinks}

variable {order : OrderFact} {runtimeEpoch : ℕ} {now : I64} {snapshot : BrokerSnapshot}
  {linked : List BrokerIdentityLinks}

/-- An order that is evidence for a mutation is the one its request is named by. -/
lemma order_of_evidence (hexisting : names.FitLinks existing)
    (hid : existing.logicalRequestId = mutation.logicalRequestId) (horder : names.FitOrder order)
    (h : orderEvidenceResolves mutation existing order = true) :
    order.brokerOrderId = names.order existing.logicalRequestId := by
  have hlogical : order.logicalRequestId = some mutation.logicalRequestId →
      order.brokerOrderId = names.order existing.logicalRequestId := by
    intro h
    rw [hid]
    exact horder _ h
  have horiginal : existing.brokerOrderId = some order.brokerOrderId →
      order.brokerOrderId = names.order existing.logicalRequestId := hexisting.order _
  have hreplacement : existing.replacementBrokerOrderId = some order.brokerOrderId →
      order.brokerOrderId = names.order existing.logicalRequestId := hexisting.replacement _
  unfold orderEvidenceResolves at h
  cases hkind : mutation.kind <;>
    simp only [hkind, Bool.or_eq_true, Bool.and_eq_true, decide_eq_true_eq, Bool.false_eq_true] at h
  case postOrder | postOrderAsync => exact h.elim hlogical horiginal
  case replaceOrder => exact h.elim hlogical hreplacement
  case cancelOrder => exact h.1.elim horiginal hreplacement

/-- Linking that order fits. -/
lemma fitLinks_linkOrder {kind : MutationKind} (hexisting : names.FitLinks existing)
    (horder : order.brokerOrderId = names.order existing.logicalRequestId) :
    names.FitLinks (linkOrder kind existing order) := by
  have hname : ∀ v ∈ some order.brokerOrderId, v = names.order existing.logicalRequestId := by
    rintro v hv
    rw [← Option.mem_some_iff.mp hv]
    exact horder
  unfold linkOrder
  split_ifs
  · exact ⟨hexisting.order, hname, hexisting.stop⟩
  · exact ⟨hname, hexisting.replacement, hexisting.stop⟩

/-- **Evidence that fits makes links that fit**, from links that do. -/
lemma resolveMutation_named {direct : Option OrderFact} (hexisting : names.FitLinks existing)
    (hid : existing.logicalRequestId = mutation.logicalRequestId)
    (hactive : ∀ order ∈ snapshot.activeOrders, names.FitOrder order)
    (hdirect : ∀ order ∈ direct, names.FitOrder order)
    (h : resolveMutation runtimeEpoch now mutation existing snapshot direct =
      some (record, links)) : names.FitLinks links := by
  obtain ⟨_, _, -, hfrom⟩ := resolveMutation_cases h
  cases hfrom with
  | order hread hmatch _ =>
    have horder := hread.elim (hdirect _) fun hread => hactive _ hread.1
    exact fitLinks_linkOrder hexisting (order_of_evidence hexisting hid horder hmatch)
  | stop _ hmatch =>
    -- a stop is found by the identity that is known already
    exact ⟨hexisting.order, hexisting.replacement, fun v hv => hexisting.stop v (hmatch.trans hv)⟩
  | operation => exact ⟨hexisting.order, hexisting.replacement, hexisting.stop⟩
  | event => exact hexisting

lemma fitLinks_existing (id : String) (h : names.FitAll linked) :
    names.FitLinks (existingLinks linked id) ∧ (existingLinks linked id).logicalRequestId = id := by
  unfold existingLinks
  rcases hfind : linked.find? (·.logicalRequestId = id) with _ | links
  · rw [hfind, Option.getD_none]
    exact ⟨⟨nofun, nofun, nofun⟩, rfl⟩
  · have hfits := List.find?_some hfind
    rw [hfind, Option.getD_some]
    exact ⟨h links (List.mem_of_find?_eq_some hfind), of_decide_eq_true hfits⟩

/-- What a reconciliation has read fits the names. -/
structure FitReadings (names : Names) (readings : Readings) : Prop where
  orders : ∀ order ∈ readings.orders, names.FitOrder order
  linked : names.FitAll readings.linked
  directs : ∀ direct ∈ readings.directs, ∀ order ∈ direct, names.FitOrder order

/-- So does everything that is found out about the unresolved mutations, by induction on them. -/
lemma resolveAll_named (hlinked : names.FitAll linked)
    (hactive : ∀ order ∈ snapshot.activeOrders, names.FitOrder order)
    {mutations : List MutationRecord} : ∀ (directs : List (Option OrderFact)) (found : Resolution),
      (∀ direct ∈ directs, ∀ order ∈ direct, names.FitOrder order) →
      names.FitAll found.links →
      names.FitAll (resolveAll runtimeEpoch now snapshot linked mutations directs found).links := by
  induction mutations with
  | nil => exact fun _ _ _ hfound => hfound
  | cons mutation rest ih =>
    intro directs found hdirects hfound
    obtain ⟨hexisting, hid⟩ := fitLinks_existing mutation.logicalRequestId hlinked
    have hdirect : ∀ order ∈ (if mutation.kind.concernsOrder then directs.head?.join else none),
        names.FitOrder order := by
      intro order horder
      split_ifs at horder
      · have hhead : directs.head? = some (some order) := Option.join_eq_some_iff.mp horder
        exact hdirects _ (List.mem_of_mem_head? hhead) order rfl
      · cases horder
    have hlater : ∀ direct ∈ (if mutation.kind.concernsOrder then directs.tail else directs),
        ∀ order ∈ direct, names.FitOrder order := by
      intro direct hmem
      split_ifs at hmem
      · exact hdirects direct (List.mem_of_mem_tail hmem)
      · exact hdirects direct hmem
    simp only [resolveAll]
    split
    · rename_i record link hresolved
      refine ih _ _ hlater fun links hlinks => ?_
      rcases List.mem_append.mp hlinks with hlinks | hlinks
      · exact hfound links hlinks
      · rw [List.mem_singleton.mp hlinks]
        exact resolveMutation_named hexisting hid hactive hdirect hresolved
    · exact ih _ _ hlater hfound

/-- **A plan that is made of readings that fit** writes links that do. -/
lemma planOf_named {scope : RuntimeScope} {readings : Readings} {plan : Plan}
    (h : names.FitReadings readings) (hplan : PlanOf scope readings plan) :
    names.FitAll plan.links := by
  obtain ⟨runtimeEpoch, opening, stopOrders, expectations, rfl⟩ := hplan
  have horders : ∀ order ∈ (readings.snapshot opening stopOrders).activeOrders,
      names.FitOrder order := h.orders
  exact resolveAll_named h.linked horders _ _ h.directs nofun

end Names

/-! ## Runs -/

namespace Names

/-- The readings of a process fit. -/
def FitReading (names : Names) : Reading → Prop
  | .underway readings => names.FitReadings readings
  | _ => True

/-- The links that are read fit. -/
def Reads {R : Interface} (names : Names) (op : (full R).Op) (r : (full R).Res op) : Prop :=
  match op, r with
  | .inl (.inl (.inl (.store .allIdentityLinks))), .ok linked =>
    names.FitAll linked
  | _, _ => True

variable {names : Names} {R : Interface} {scope : RuntimeScope} {g : Reading}

lemma fitReading_add {f : Readings → Readings}
    (hf : ∀ readings, names.FitReadings readings → names.FitReadings (f readings))
    (hg : names.FitReading g) : names.FitReading (g.add f) := by
  cases g with
  | underway readings => exact hf readings hg
  | dispatching | committed readings => exact trivial

/-- An operation that fits leaves readings that fit. -/
lemma fitReading_next {op : (full R).Op} {r : (full R).Res op} (hg : names.FitReading g)
    (htells : names.Tells op r)
    (hreads : names.Reads op r) :
    names.FitReading ((readingDiscipline R scope).next op r g) := by
  rcases op with ((op | op) | op) | op
  · cases op with
    | external question =>
      cases question with
      | operationsPage =>
        rcases r with _ | page
        · exact hg
        · exact fitReading_add (fun _ h => ⟨h.orders, h.linked, h.directs⟩) hg
      | orderState =>
        rcases r with _ | direct
        · exact hg
        · refine fitReading_add (fun _ h => ⟨h.orders, h.linked, fun d hd => ?_⟩) hg
          rcases List.mem_append.mp hd with hd | hd
          · exact h.directs d hd
          · rw [List.mem_singleton.mp hd]
            rcases direct with _ | order
            · exact fun _ h => by cases h
            · intro _ h
              cases h
              exact htells
      | _ => exact hg
    | volatile => exact hg
    | store op =>
      cases op with
      | unresolvedMutations =>
        rcases r with _ | listed
        · exact hg
        · exact fitReading_add (fun _ h => ⟨h.orders, h.linked, h.directs⟩) hg
      | allIdentityLinks =>
        rcases r with _ | linked
        · exact hg
        · exact fitReading_add (fun _ h => ⟨h.orders, hreads, h.directs⟩) hg
      | _ => exact hg
  · exact hg
  · cases op with
    | activeOrders =>
      rcases r with _ | orders
      · exact hg
      · exact ⟨htells, nofun, fun _ h => (by cases h)⟩
    | commitReconciliation =>
      cases g <;> exact trivial
  · exact hg

end Names

section

variable {R : Interface} {side : RiskSide R} {scope : RuntimeScope} {port : RiskPort R}

/-- The readings of a process. -/
def readingAt (who : ℕ) (job : Job) (trace : List (runtimeSystem side scope port).Performed) :
    Reading :=
  ghostAt (readingDiscipline R scope) (Reading.first job) who trace

variable {who : ℕ} {job : Job} {site : Site} {op : (full R).Op} {r : (full R).Res op}
  {trace : List (runtimeSystem side scope port).Performed} {names : Names}

lemma readingAt_self : readingAt who job (⟨who, site, op, r⟩ :: trace) =
      (readingDiscipline R scope).next op r (readingAt who job trace) :=
  ghostAt_cons_self

lemma readingAt_of_ne {e : (runtimeSystem side scope port).Performed} (h : e.who ≠ who) :
    readingAt who job (e :: trace) = readingAt who job trace :=
  ghostAt_cons_of_ne h

/-- **What every operation keeps, every run keeps.** As long as the answers are so (`T`), the
database is (`D`) and what the processes have read is (`G`), and so are the operations (`E`). -/
lemma readings_reach {T : (op : (full R).Op) → (full R).Res op → Prop} {D : RuntimeDb → Prop}
    {G : Reading → Prop} {E : (full R).Op → Prop}
    (hkept : ∀ {who site choice op r g} {w w' : World side.State},
      (readingDiscipline R scope).pre op g → G g → T op r →
      execOp side scope op who site choice w = some (w', r) → D w.db →
      E op ∧ D w'.db ∧ ∀ g, G g → G ((readingDiscipline R scope).next op r g))
    (hfirst : ∀ job, G (.first job)) {c₀ c : (Timeline side scope port).Config}
    (hthreads : c₀.threads = []) (htrace : c₀.state.trace = []) (hdb : D c₀.state.state.db)
    {good : (Timeline side scope port).Condition}
    (h : Reach good c₀ c) (htold : ∀ e ∈ c.state.trace, T e.op e.res) :
    D c.state.state.db ∧ ∀ e ∈ c.state.trace, E e.op := by
  let Inv (c : (Timeline side scope port).Config) : Prop :=
    (∀ e ∈ c.state.trace, T e.op e.res) → (∀ who job, G (readingAt who job c.state.trace)) ∧
      D c.state.state.db ∧ ∀ e ∈ c.state.trace, E e.op
  have hstart : Inv c₀ := by
    intro _
    rw [htrace]
    exact ⟨fun _ job => hfirst job, hdb, fun _ h => absurd h List.not_mem_nil⟩
  refine ((Disciplined.reach (starts_of_jobs (reading_job port scope))
    (fun {c c' label} hdisciplined (hinv : Inv c) _ hstep => ?_) (.of_nil hthreads htrace) hstart
    h).2 htold).2
  intro htold
  rcases step_db hstep with ⟨hdb, htrace⟩ | ⟨who, choice, site, op, next, r, hthread, hexec, htrace⟩
  · rw [htrace] at htold ⊢
    rw [hdb]
    exact hinv htold
  rw [htrace] at htold ⊢
  obtain ⟨hanswer, htold⟩ := List.forall_mem_cons.mp htold
  obtain ⟨hreadings, hdb, hops⟩ := hinv htold
  obtain ⟨hop, hdb', hnext⟩ :=
    hkept (hdisciplined.follows hthread).1 (hreadings who site.job) hanswer hexec hdb
  refine ⟨fun other job => ?_, hdb', List.forall_mem_cons.mpr ⟨hop, hops⟩⟩
  by_cases hwho : who = other
  · subst hwho
    rw [readingAt_self]
    exact hnext _ (hreadings who job)
  · rw [readingAt_of_ne hwho]
    exact hreadings other job

/-- The links that are read are those of the database. -/
lemma execOp_reads {choice : Choice side.Choice} {w w' : World side.State}
    (h : execOp side scope op who site choice w = some (w', r)) (hfit : names.FitDb w.db) :
    names.Reads op r := by
  unfold Names.Reads
  split
  · rename_i linked
    rcases transaction_cases (Option.some.inj h) with ⟨-, _, hr⟩ | ⟨_, db, hop, -, hr⟩
    · cases hr
    · cases hr
      rw [← (Except.pair_inj hop).1]
      exact Names.fitLinks_read hfit
  · exact trivial

/-- The links that are written are those of an acknowledgement or of a plan. -/
lemma fitLinks_written {g : Reading} (hpre : (readingDiscipline R scope).pre op g)
    (hg : names.FitReading g) (htells : names.Tells op r) : names.FitAll (writtenLinks op) := by
  unfold writtenLinks
  split
  · intro links hlinks
    rw [List.mem_singleton.mp hlinks]
    exact htells
  · obtain ⟨readings, plan, rfl, hplan, hcommit⟩ := hpre
    obtain ⟨-, -, rfl, -, -⟩ := SnapshotOp.commitReconciliation.inj hcommit
    exact Names.planOf_named hg hplan
  · exact nofun

/-- In every run from where all links fit, they do as long as everything that is said fits. -/
lemma named_reach {c₀ c : (Timeline side scope port).Config} (hthreads : c₀.threads = [])
    (htrace : c₀.state.trace = []) (hfit : names.FitDb c₀.state.state.db)
    {good : (Timeline side scope port).Condition}
    (h : Reach good c₀ c) (htold : ∀ e ∈ c.state.trace, names.Tells e.op e.res) :
    names.FitDb c.state.state.db := by
  refine (readings_reach (G := names.FitReading) (E := fun _ => True)
    (fun hpre hg htells hexec hfit => ⟨trivial, ?_, fun g hg => ?_⟩) (fun job => ?_) hthreads htrace
    hfit h htold).1
  · rcases execOp_learns hexec with hlearns | hlearns
    · exact Names.fitDb_learns (fun _ h => by cases h) hlearns hfit
    · exact Names.fitDb_learns (fitLinks_written hpre hg htells) hlearns hfit
  · exact Names.fitReading_next hg htells (execOp_reads hexec hfit)
  · cases job <;> exact trivial

end

/-- A row keeps the identities another one has. -/
structure IdentityRow.Keeps (row' row : IdentityRow) : Prop where
  order : ∀ v ∈ row.brokerOrderId, row'.brokerOrderId = some v
  replacement : ∀ v ∈ row.replacementBrokerOrderId, row'.replacementBrokerOrderId = some v
  stop : ∀ v ∈ row.brokerStopOrderId, row'.brokerStopOrderId = some v

/-- Every known identity is as before. -/
def LinksKept (db db' : RuntimeDb) : Prop :=
  ∀ id row, db.identityOf id = some row → ∃ row', db'.identityOf id = some row' ∧ row'.Keeps row

/-- Where all links fit and none is lost, every identity is as before. -/
lemma linksKept_of_fit {names : Names} {db db' : RuntimeDb} (hfit : names.FitDb db)
    (hfit' : names.FitDb db') (hgrow : db.LinksGrow db') : LinksKept db db' := by
  intro id row hrow
  obtain ⟨row', hrow', hcovers⟩ := hgrow.identities id row hrow
  have hid : row.logicalRequestId = row'.logicalRequestId :=
    (Rows.mem_of_select hrow).2.trans (Rows.mem_of_select hrow').2.symm
  have hnames := Names.fitDb_iff.mp hfit id row hrow
  have hnames' := Names.fitDb_iff.mp hfit' id row' hrow'
  rw [Names.FitRow, hid] at hnames
  have hsame : ∀ {known later : Option String} {name : String}, (∀ v ∈ known, v = name) →
      (∀ v ∈ later, v = name) → (known.isSome → later.isSome) → ∀ v ∈ known, later = some v := by
    intro known later name hknown hlater hcovers v hv
    obtain ⟨v', hv'⟩ := Option.isSome_iff_exists.mp (hcovers (Option.isSome_of_mem hv))
    rw [hv', hlater v' hv', hknown v hv]
  exact ⟨row', hrow', ⟨hsame hnames.order hnames'.order hcovers.order,
    hsame hnames.replacement hnames'.replacement hcovers.replacement,
    hsame hnames.stop hnames'.stop hcovers.stop⟩⟩

section

variable {R : Interface} {side : RiskSide R} {scope : RuntimeScope} {port : RiskPort R}

/-- **Identities are not lost, and the operations and fills of a request only become more. When the
broker names every request by one order and one stop, no known identity changes**, whichever calls
and reconciliations run side by side. -/
theorem identities_never_change (names : Names) {c₀ c c' : (Timeline side scope port).Config}
    (hthreads : c₀.threads = []) (htrace : c₀.state.trace = [])
    (hfit : names.FitDb c₀.state.state.db)
    (hreach : Reach (fun _ _ => True) c₀ c) (hlater : Reach (fun _ _ => True) c c') :
    c.state.state.db.LinksGrow c'.state.state.db ∧ ((∀ e ∈ c'.state.trace, names.Tells e.op e.res) →
        LinksKept c.state.state.db c'.state.state.db) := by
  have hgrow := linksGrow_reach hlater
  refine ⟨hgrow, fun htold => ?_⟩
  -- what was said until `c` was said until `c'`
  obtain ⟨newer, hnewer⟩ := trace_reach hlater
  have htold' : ∀ e ∈ c.state.trace, names.Tells e.op e.res := fun e he =>
    htold e (hnewer ▸ List.mem_append_right newer he)
  have hbefore := named_reach hthreads htrace hfit hreach htold'
  have hafter := named_reach hthreads htrace hfit (hreach.trans hlater) htold
  exact linksKept_of_fit hbefore hafter hgrow

end

/-! ## A request with two orders -/

/-- The state of an order for the request, as the broker tells it. -/
def orderNamed (brokerOrderId : String) : OrderFact :=
  ⟨"account-1", brokerOrderId, some "request-1", "instrument-1", some .buy, .lit 10, .lit 0, .new⟩

/-- The broker answers with that order whenever it is asked for one. -/
def answering (order : OrderFact) : Choice Unit :=
  { plainChoice () with
    answer := fun
      | .orderState _ _ => .ok (some order)
      | question => plainAnswer question }

/-- A call until it has stored the links of its acknowledgement. -/
def untilLinked : List (Timeline approvingSide fixtureScope approvingPort).Label :=
  .start (0, .dispatch .sandboxMutation buyTenLots "request-1" "correlation-1") ::
    List.replicate 15 (.run 0 (plainChoice ()))

/-- A reconciliation that asks for the order of the request. -/
def reconcileAsking (order : OrderFact) :
    List (Timeline approvingSide fixtureScope approvingPort).Label :=
  .start (0, .forceReconciliation .reconciliationStarted "operator") ::
    List.replicate 30 (.run 1 (answering order))

/-- The order a request is linked to. -/
def linkedOrder (db : RuntimeDb) (id : String) : Option String :=
  (db.identityOf id).bind IdentityRow.brokerOrderId

/-- **The identity of a request is replaced**: the acknowledgement names one order, and before the
call has moved its journal row a reconciliation finds another order for the request. -/
theorem identity_replaced : ∃ c c', readyTimeline.run untilLinked = some c ∧
      c.run (reconcileAsking (orderNamed "broker-2")) = some c' ∧
      linkedOrder c.state.state.db "request-1" = some "broker-1" ∧
      linkedOrder c'.state.state.db "request-1" = some "broker-2" ∧
      ¬ LinksKept c.state.state.db c'.state.state.db := by
  obtain ⟨c, hfirst, c', hsecond, hlinked, hlinked'⟩ : ∃ c, readyTimeline.run untilLinked = some c ∧
      ∃ c', c.run (reconcileAsking (orderNamed "broker-2")) = some c' ∧
        linkedOrder c.state.state.db "request-1" = some "broker-1" ∧
        linkedOrder c'.state.state.db "request-1" = some "broker-2" := by
    decide +kernel
  refine ⟨c, c', hfirst, hsecond, hlinked, hlinked', fun hkept => ?_⟩
  obtain ⟨row, hrow, horder⟩ := Option.bind_eq_some_iff.mp hlinked
  obtain ⟨row', hrow', horder'⟩ := Option.bind_eq_some_iff.mp hlinked'
  obtain ⟨row'', hrow'', hkeeps⟩ := hkept "request-1" row hrow
  cases hrow'.symm.trans hrow''
  have hsame := hkeeps.order _ horder
  rw [horder'] at hsame
  exact absurd (Option.some.inj hsame) (by decide)

instance (names : Names) (id : String) (order replacement stop : Option String) :
    Decidable (names.Fit id order replacement stop) :=
  decidable_of_iff ((∀ v ∈ order, v = names.order id) ∧ (∀ v ∈ replacement, v = names.order id) ∧
    ∀ v ∈ stop, v = names.stop id) ⟨fun h => ⟨h.1, h.2.1, h.2.2⟩,
      fun h => ⟨h.order, h.replacement, h.stop⟩⟩

instance (names : Names) (order : OrderFact) : Decidable (names.FitOrder order) := by
  unfold Names.FitOrder
  infer_instance

instance {R : Interface} (names : Names) (op : (full R).Op) (r : (full R).Res op) :
    Decidable (names.Tells op r) := by
  unfold Names.Tells
  split <;> infer_instance

/-- When both name the same order, the identity stays. -/
theorem identity_confirmed : ∃ c c', readyTimeline.run untilLinked = some c ∧
      c.run (reconcileAsking (orderNamed "broker-1")) = some c' ∧
      linkedOrder c'.state.state.db "request-1" = some "broker-1" ∧
      LinksKept c.state.state.db c'.state.state.db := by
  obtain ⟨c, hfirst, c', hsecond, hlinked, htold⟩ : ∃ c, readyTimeline.run untilLinked = some c ∧
      ∃ c', c.run (reconcileAsking (orderNamed "broker-1")) = some c' ∧
        linkedOrder c'.state.state.db "request-1" = some "broker-1" ∧
        ∀ e ∈ c'.state.trace, Names.Tells ⟨fun _ => "broker-1", fun _ => "stop-1"⟩ e.op e.res := by
    decide +kernel
  have hfit : Names.FitDb ⟨fun _ => "broker-1", fun _ => "stop-1"⟩ readyTimeline.state.state.db :=
    nofun
  exact ⟨c, c', hfirst, hsecond, hlinked, (identities_never_change _ rfl rfl hfit
    (Config.reach_of_run hfirst) (Config.reach_of_run hsecond)).2
    htold⟩

end VoxTrader.Runtime
