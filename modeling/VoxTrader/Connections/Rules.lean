import VoxTrader.Connections.Parts

/-!
# What the operations of a call are based on

Whatever a call of the connection service writes, it writes because of what it has read before, and
whatever it replies, it replies because of what it has done. `Rule` says so for every operation that
matters, in terms of the operations the call has performed already. No later module looks into the
programs of the calls again.

## Main definitions

* `Done` — an operation with its result, and what can be seen from it.
* `Rule` — what an operation of a call is based on.

## Main results

* `follows_call` — **every call keeps to the rule**.
* `rule_reach` — so does every operation of a run.
-/

namespace VoxTrader.Connections

open Process System
open Keeps (bindExcept)

/-! ## What can be seen from an operation -/

/-- A credential is asked for. -/
def Op.asks : Op → Bool
  | .secret (.get _ _) => true
  | _ => false

/-- A call replies that it succeeded. -/
def Op.succeeds : Op → Bool
  | .reply (.ok _) => true
  | _ => false

/-- It is a reply without an error. -/
lemma Op.succeeds_iff {op : Op} : op.succeeds = true ↔ ∃ answer, op = .reply (.ok answer) := by
  constructor
  · intro h
    rcases op with _ | _ | _ | _ | _ | (_ | answer)
    case reply.ok => exact ⟨answer, rfl⟩
    all_goals cases h
  · rintro ⟨answer, rfl⟩
    rfl

/-- An operation with its result. -/
abbrev Done := (op : Op) × op.Res

namespace Done

/-- The rows of connections that were read, with the connection that was asked for. -/
def rows : Done → List (ConnectionId × BrokerConnection)
  | ⟨.repository (.connection id) _, r⟩ => found id r
  | ⟨.repository .listConnections _, r⟩ => listed r
  | _ => []
where
  /-- One row. -/
  found (id : ConnectionId) : Except RepositoryError (Option BrokerConnection) →
      List (ConnectionId × BrokerConnection)
    | .ok (some row) => [(id, row)]
    | _ => []
  /-- All rows. -/
  listed : Except RepositoryError (List BrokerConnection) → List (ConnectionId × BrokerConnection)
    | .ok rows => rows.map fun row => (row.id, row)
    | .error _ => []

/-- The credential that was read. -/
def got : Done → Option CredentialRef
  | ⟨.secret (.get ref _), r⟩ => if Except.isOk r then some ref else none
  | _ => none

/-- A credential was asked for. -/
def asks (d : Done) : Bool := d.1.asks

/-- The credential that was disabled. -/
def cut : Done → Option CredentialRef
  | ⟨.secret (.disable ref), r⟩ => if Except.isOk r then some ref else none
  | _ => none

/-- The UUID that was drawn. -/
def drew : Done → Option ℕ
  | ⟨.newUuid, uuid⟩ => some (uuid : ℕ)
  | _ => none

/-- The UUID that was used for a connection. -/
def usedId : Done → Option ConnectionId
  | ⟨.repository (.insertConnection row) _, _⟩ => some row.id
  | _ => none

/-- The UUID that was used for a credential. -/
def usedRef : Done → Option CredentialRef
  | ⟨.secret (.put ref _ _), _⟩ => some ref
  | _ => none

/-- The permissions a user was seen to have. -/
def granted (user : UserId) : Done → List Permission
  | ⟨.repository (.permissions user') _, r⟩ => if user' = user then held r else []
  | _ => []
where
  /-- What was answered. -/
  held : Except RepositoryError (List Permission) → List Permission
    | .ok permissions => permissions
    | .error _ => []

/-- The authorization of an account that was read. -/
def authorization (id : ConnectionId) (providerAccountId : String) :
    Done → Option ExecutionAuthorization
  | ⟨.repository (.authorization id' providerAccountId') _, r⟩ =>
    if id' = id ∧ providerAccountId' = providerAccountId then stored r else none
  | _ => none
where
  /-- What was answered. -/
  stored : Except RepositoryError (Option ExecutionAuthorization) → Option ExecutionAuthorization
    | .ok stored => stored
    | .error _ => none

/-- A database was changed. -/
def wrote : Done → Bool
  | ⟨.repository op audits, r⟩ => !(Op.repository op audits).reads && Except.isOk r
  | ⟨.secret op, r⟩ => !(Op.secret op).reads && Except.isOk r
  | _ => false

end Done

/-! ## What is seen is there -/

variable {id : ConnectionId} {audits : List AuditRecord}

section

variable {fingerprint : SecretBytes → String} {choice : Choice} {w w' : World}
  {op : Op} {r : op.Res}

/-- A value that a read returns. -/
lemma read_of_exec {op : RepositoryOp} {a : op.Value}
    (h : execOp fingerprint choice w (.repository op audits) = (w', .ok a)) :
    ∃ db, op.exec w.db = .ok (a, db) := by
  rcases execOp_repository h with ⟨-, e, hno⟩ | ⟨a', db, hexec, -, heq⟩
  · cases hno
  · cases heq
    obtain ⟨db₁, hexec, -⟩ := RepositoryOp.execAudited_eq_ok.mp hexec
    exact ⟨db₁, hexec⟩

/-- The rows that are read are there. -/
lemma rows_of_exec (h : execOp fingerprint choice w op = (w', r))
    {row : BrokerConnection} (hrow : (id, row) ∈ Done.rows ⟨op, r⟩) :
    row ∈ w.db.connections ∧ row.id = id := by
  rcases op with ⟨op, audits⟩ | op | _ | _ | _ | _
  · cases op with
    | connection =>
      rcases r with _ | _ | found
      · cases hrow
      · cases hrow
      · cases List.mem_singleton.mp hrow
        obtain ⟨db, hread⟩ := read_of_exec h
        exact Rows.mem_of_select (Except.pair_inj hread).1
    | listConnections =>
      rcases r with _ | rows
      · cases hrow
      · obtain ⟨row', hrow', heq⟩ := List.mem_map.mp hrow
        cases heq
        obtain ⟨db, hread⟩ := read_of_exec h
        have hlist : w.db.listConnections = rows := (Except.pair_inj hread).1
        exact ⟨(List.mem_insertionSort _).mp (hlist ▸ hrow'), rfl⟩
    | _ => cases hrow
  all_goals cases hrow

end

/-! ## The rule -/

/-- Who makes a call. -/
def Call.actor : Call → Option UserId
  | createConnection security _ _ | revalidate security _ | rotateCredential security _ _
  | disableConnection security _ | deleteConnection security _ | recoverConnectionLifecycle security
  | bindAccount security _ _ _ | unbindAccount security _ | disableBinding security _
  | setExecutionAuthorization security _ _ _ | setExecutionAuthorizationCas security _ _ _ _
  | replaceRole security _ | grantRole security _ _ | listConnections security
  | discoveredAccounts security _ | accountBindings security _
  | executionAuthorization security _ _ => some security.actor
  | _ => none

/-- The connection a call asks for access to. -/
def Call.accessTo : Call → Option ConnectionId
  | validateReadAccess id _ _ | validateExecutionAccess id _ _ _ _ | validateRuntimeReadAccess id _
  | validateRuntimeExecutionAccess id _ _ _ | openRuntimeReadClient id _
  | openRuntimeExecutionClient id _ _ _ => some id
  | _ => none

/-- The account a call asks to send orders for, with the revision it expects. -/
def Call.executesOn : Call → Option (ConnectionId × String × ℕ)
  | validateExecutionAccess id providerAccountId _ _ (some revision)
  | validateRuntimeExecutionAccess id providerAccountId _ (some revision)
  | openRuntimeExecutionClient id providerAccountId _ revision =>
    some (id, providerAccountId, revision)
  | _ => none

/-- The connection a call disables. -/
def Call.disables : Call → Option ConnectionId
  | disableConnection _ id => some id
  | _ => none

/-- The call may delete connections. -/
def Call.deletes : Call → Bool
  | deleteConnection _ _ | recoverConnectionLifecycle _ => true
  | _ => false

/-- The account whose mode a call sets, and the mode. -/
def Call.sets : Call → Option (ConnectionId × String × ExecutionAuthorizationMode)
  | setExecutionAuthorization _ id providerAccountId mode
  | setExecutionAuthorizationCas _ id providerAccountId mode _ => some (id, providerAccountId, mode)
  | _ => none

/-- The revision a call expects. -/
def Call.expects : Call → Option ℕ
  | setExecutionAuthorizationCas _ _ _ _ revision => some revision
  | _ => none

variable {call : Call} {g g' : Call × List Done}

/-- A call that sets nothing expects nothing. -/
lemma expects_of_sets (h : call.sets = none) : call.expects = none := by
  cases call <;> first | rfl | cases h

/-- What the change of an authorization is based on: the one that was read, and for anything but
its withdrawal the permission of the caller. -/
structure ChangeRule (call : Call) (h : List Done) (changed : ExecutionAuthorization)
    (expectedRevision : ℕ) (previous : ExecutionAuthorization) : Prop where
  read : ∃ d ∈ h, d.authorization changed.connectionId changed.providerAccountId = some previous
  revision : expectedRevision = previous.authorizationRevision
  expected : ∀ revision, call.expects = some revision → expectedRevision = revision
  set : (call.sets = none ∧ changed.mode = .disabled) ∨
    (call.sets = some (changed.connectionId, changed.providerAccountId, changed.mode) ∧
      ∃ row, (∃ d ∈ h, (changed.connectionId, row) ∈ d.rows) ∧
        (authorizationRank changed.mode < authorizationRank previous.mode ∨
          ∃ actor, call.actor = some actor ∧ ∃ d ∈ h,
            transitionPermission row.environment previous.mode changed.mode ∈ d.granted actor))

/-- What a call for access has done when it succeeds: the last credential that it asked for, it
got, and it is the one of the connection. -/
def Shown (id : ConnectionId) (h : List Done) : Prop :=
  ∃ row, (∃ d ∈ h, (id, row) ∈ d.rows) ∧
    ∃ d, h.find? Done.asks = some d ∧ d.got = some row.credentialRef

/-- An authorization with the revision was read. -/
def Checked (id : ConnectionId) (providerAccountId : String) (revision : ℕ) (h : List Done) :
    Prop :=
  ∃ d ∈ h, ∃ stored, d.authorization id providerAccountId = some stored ∧
    stored.authorizationRevision = revision

/-- What a reply that a call succeeded is based on. -/
structure ReplyRule (call : Call) (h : List Done) : Prop where
  access : ∀ id, call.accessTo = some id → Shown id h
  disabled : ∀ id, call.disables = some id → ∃ row, (∃ d ∈ h, (id, row) ∈ d.rows) ∧
    ∃ d ∈ h, d.cut = some row.credentialRef
  executes : ∀ id providerAccountId revision,
    call.executesOn = some (id, providerAccountId, revision) →
      Checked id providerAccountId revision h

/-- **What an operation of a call is based on.** -/
def Rule (call : Call) (h : List Done) : Op → Prop
  | .repository (.insertConnection row) _ =>
    (∃ d ∈ h, d.drew = some row.id) ∧ ∀ d ∈ h, d.usedId ≠ some row.id
  | .secret (.put ref _ _) => (∃ d ∈ h, d.drew = some ref) ∧ ∀ d ∈ h, d.usedRef ≠ some ref
  | .repository (.finalizeConnectionDelete id) _ =>
    call.deletes = true ∧ ∃ row, ∃ d ∈ h, (id, row) ∈ d.rows
  | .repository (.insertOnboarding row accounts authorizations) _ =>
    ∃ security, authorizations = initialAuthorizations security row.id accounts
  | .repository (.putAuthorization changed expectedRevision) _ =>
    ∃ previous, ChangeRule call h changed expectedRevision previous
  | .repository (.putRole _) _ | .repository (.grantRole _ _) _ =>
    ∃ actor, call.actor = some actor ∧ ∃ d ∈ h, Permission.securityAdmin ∈ d.granted actor
  | .reply (.ok _) => ReplyRule call h
  | .reply (.error _) => call.sets ≠ none → ∀ d ∈ h, d.wrote = false
  | _ => True

/-- The rule as a discipline: a call remembers what it has done. -/
def ruleDiscipline : Discipline service (Call × List Done) where
  pre op g := Rule g.1 g.2 op
  next op r g := (g.1, ⟨op, r⟩ :: g.2)

/-! ## Programs that keep to it -/

/-- The same call, later. -/
structure Goes (g g' : Call × List Done) : Prop where
  call : g'.1 = g.1
  later : g.2 ⊆ g'.2

/-- A call is the same as it is. -/
lemma Goes.refl (g : Call × List Done) : Goes g g := ⟨rfl, fun _ h => h⟩

/-- Later than later is later. -/
lemma Goes.trans {g₁ g₂ g₃ : Call × List Done} (h₁ : Goes g₁ g₂) (h₂ : Goes g₂ g₃) : Goes g₁ g₃ :=
  ⟨h₂.call.trans h₁.call, fun _ h => h₂.later (h₁.later h)⟩

/-- An operation makes a call go on. -/
lemma Goes.next (h : Goes g g') (op : Op) (r : op.Res) : Goes g (g'.1, ⟨op, r⟩ :: g'.2) :=
  ⟨h.call, fun _ hd => List.mem_cons_of_mem _ (h.later hd)⟩

/-- What was done stays done. -/
lemma Goes.done (h : Goes g g') {P : Done → Prop} (hd : ∃ d ∈ g.2, P d) : ∃ d ∈ g'.2, P d := by
  obtain ⟨d, hd, hP⟩ := hd
  exact ⟨d, h.later hd, hP⟩

/-- The rule allows the operation whatever was done before. -/
def Op.plain : Op → Bool
  | .repository (.insertConnection _) _ | .repository (.finalizeConnectionDelete _) _
  | .repository (.insertOnboarding _ _ _) _ | .repository (.putAuthorization _ _) _
  | .repository (.putRole _) _ | .repository (.grantRole _ _) _ | .secret (.put _ _ _)
  | .reply _ => false
  | _ => true

variable {op : Op}

/-- The rule allows plain operations. -/
lemma rule_of_plain (h : op.plain = true) (call : Call) (history : List Done) :
    Rule call history op := by
  rcases op with (_ | _) | (_ | _) | _ | _ | _ | _ <;> first | exact trivial | cases h

/-- Reads are plain. -/
lemma plain_of_reads (op : Op) (h : op.reads = true) : op.plain = true := by
  rcases op with (_ | _) | (_ | _) | _ | _ | _ | _ <;> first | rfl | cases h

variable {providerAccountId : String} {voxAccountId : VoxAccountId}

section Keeping

variable {α β : Type} {g₀ : Call × List Done}

/-- A program that keeps to the rule wherever it is part of a call. -/
abbrev Steady (g₀ : Call × List Done) (x : Process service α) : Prop :=
  Keeps ruleDiscipline (Goes g₀) x

variable {x : Process service α} {op : SecretOp} {audits : List AuditRecord}
  {security : SecurityContext} {id : ConnectionId} {row previous : BrokerConnection}
  {accounts : List BrokerAccount} {rows : List BrokerConnection} {metadata : List SecretMetadata}
  {report : LifecycleRecoveryReport}

/-- Programs of plain operations are steady. -/
lemma steady_plain (hx : x.Performs (Op.plain · = true)) : Steady g₀ x :=
  Performs.keeps hx fun op hop g hg => ⟨rule_of_plain hop g.1 g.2, fun r => hg.next op r⟩

/-- So are programs that read. -/
lemma steady_reads (hx : Reads x) : Steady g₀ x :=
  steady_plain (Performs.mono plain_of_reads hx)

/-- A plain operation of the connection database is steady. -/
lemma steady_recorded {op : RepositoryOp} (h : (Op.repository op audits).plain = true) :
    Steady g₀ (recorded op audits).run :=
  steady_plain (performs_recorded h)

/-- So is one of the credential store, -/
lemma steady_secretStore (h : (Op.secret op).plain = true) : Steady g₀ (secretStore op).run :=
  steady_plain (performs_secretStore h)

/-- also if its error is looked at. -/
lemma steady_trySecretStore (h : (Op.secret op).plain = true) : Steady g₀ (trySecretStore op) :=
  steady_plain (performs_perform h)

/-- A value that may be missing is no operation. -/
lemma steady_ofExcept {x : Except ServiceError α} : Steady g₀ (ofExcept x).run :=
  fun _ hg => hg

/-- A question to the provider is plain. -/
lemma steady_validateAndDiscover {provider : ProviderId} {environment : BrokerEnvironment}
    {credential : SecretBytes} :
    Steady g₀ (validateAndDiscover provider environment credential) :=
  steady_plain (performs_perform rfl)

/-- Looking at the error of a steady program is steady. -/
lemma steady_attempt {x : Service α} (hx : Steady g₀ x.run) : Steady g₀ (attempt x).run :=
  Keeps.bind hx fun _ => keeps_pure

/-- A steady program, with what is known when it has a value. -/
def SteadyYields (g₀ : Call × List Done) (P : α → List Done → Prop) (x : Service α) : Prop :=
  ∀ g, Goes g₀ g → Yields ruleDiscipline (fun a g' => Goes g₀ g' ∧ P a g'.2) (Goes g₀) x g

section

variable {P : α → List Done → Prop} {Q : β → List Done → Prop} {x : Service α} {f : α → Service β}

/-- What is known of the values may be forgotten. -/
lemma SteadyYields.steady (hx : SteadyYields g₀ P x) : Steady g₀ x.run :=
  fun g hg => Follows.mono (fun result _ h => by
    cases result with
    | ok => exact h.1
    | error => exact h) (hx g hg)

/-- What every value of a steady program satisfies. -/
lemma steadyYields_of_ensures {R : α → Prop} (hx : Steady g₀ x.run) (hensures : Ensures R x) :
    SteadyYields g₀ (fun a _ => R a) x :=
  fun g hg => Follows.mono (fun result _ h => by
    cases result with
    | ok a => exact ⟨h.1, h.2 a rfl⟩
    | error => exact h.1) ((hx g hg).and_returns hensures)

/-- Of the values of a steady program nothing need be known. -/
lemma steadyYields_of_steady (hx : Steady g₀ x.run) : SteadyYields g₀ (fun _ _ => True) x :=
  steadyYields_of_ensures hx (returns_of_forall fun _ _ _ => trivial)

/-- What follows from what is known is known. -/
lemma SteadyYields.mono {P' : α → List Done → Prop} (hx : SteadyYields g₀ P x)
    (h : ∀ a g, Goes g₀ g → P a g.2 → P' a g.2) : SteadyYields g₀ P' x :=
  fun g hg => (hx g hg).mono fun a g' h' => ⟨h'.1, h a g' h'.1 h'.2⟩

/-- After a program that has told something, the call goes on from there. -/
lemma SteadyYields.bind (hx : SteadyYields g₀ P x)
    (hf : ∀ a g, Goes g₀ g → P a g.2 → SteadyYields g Q (f a)) :
    SteadyYields g₀ Q (x >>= f) := by
  refine fun g hg => (hx g hg).bind fun a g₁ h₁ => ?_
  refine Follows.mono (fun result g' h => ?_) (hf a g₁ h₁.1 h₁.2 g₁ (.refl g₁))
  cases result with
  | ok => exact ⟨h₁.1.trans h.1, h.2⟩
  | error => exact h₁.1.trans h

/-- After a program that has told nothing, all is as before. -/
lemma SteadyYields.skip (hx : Steady g₀ x.run) (hf : ∀ a, SteadyYields g₀ Q (f a)) :
    SteadyYields g₀ Q (x >>= f) := by
  exact fun g hg => Follows.bindExcept (hx g hg) (fun _ _ h => h) hf

/-- A value about which something is known. -/
lemma steadyYields_pure {a : α} (h : ∀ g, Goes g₀ g → P a g.2) : SteadyYields g₀ P (pure a) :=
  fun g hg => yields_pure ⟨hg, h g hg⟩

/-- A value that may be missing. -/
lemma steadyYields_ofExcept {value : Except ServiceError α} :
    SteadyYields g₀ (fun a _ => value = .ok a) (ofExcept value) := by
  intro g hg
  cases value with
  | ok => exact ⟨hg, rfl⟩
  | error => exact hg

end

/-- An operation of the connection database that the rule allows. -/
lemma steadyYields_recorded {op : RepositoryOp}
    (hrule : ∀ g, Goes g₀ g → Rule g.1 g.2 (.repository op audits)) :
    SteadyYields g₀ (fun a h => ⟨.repository op audits, .ok a⟩ ∈ h) (recorded op audits) := by
  refine fun g hg => yields_orFail ⟨hrule g hg, fun r => ?_⟩
  rcases r with e | a
  · exact hg.next _ _
  · exact ⟨hg.next _ _, List.mem_cons_self⟩

/-- An operation of the credential store that the rule allows. -/
lemma steadyYields_secretStore (hrule : ∀ g, Goes g₀ g → Rule g.1 g.2 (.secret op)) :
    SteadyYields g₀ (fun a h => ⟨.secret op, .ok a⟩ ∈ h) (secretStore op) := by
  refine fun g hg => yields_orFail ⟨hrule g hg, fun r => ?_⟩
  rcases r with e | a
  · exact hg.next _ _
  · exact ⟨hg.next _ _, List.mem_cons_self⟩

/-- Reading the authorization of an account. -/
lemma steadyYields_authorization (id : ConnectionId) (providerAccountId : String) :
    SteadyYields g₀ (fun found h => ∀ stored, found = some stored →
      ∃ d ∈ h, d.authorization id providerAccountId = some stored)
      (repository (.authorization id providerAccountId)) :=
  SteadyYields.mono (steadyYields_recorded fun _ _ => trivial) fun _ _ _ hread _ hfound =>
    ⟨_, hread, (if_pos ⟨rfl, rfl⟩).trans hfound⟩

/-- A withdrawal is based on the authorization that was read. -/
lemma steady_revokeInvalidAuthorizations (hsets : g₀.1.sets = none) :
    Steady g₀ (revokeInvalidAuthorizations security row accounts).run := by
  induction accounts generalizing g₀ with
  | nil => exact keeps_pure
  | cons account others ih =>
    refine SteadyYields.steady (P := fun _ _ => True) ((steadyYields_authorization _ _).bind
      fun found g₁ hg₁ hread => ?_)
    have hothers : SteadyYields g₁ (fun _ _ => True)
      (revokeInvalidAuthorizations security row others) :=
      steadyYields_of_steady (ih (hg₁.call ▸ hsets))
    rcases found with _ | previous
    · exact hothers
    · dsimp only
      split_ifs
      · exact hothers
      · refine SteadyYields.skip (steady_recorded rfl) fun bindings => ?_
        refine SteadyYields.skip steady_ofExcept fun revision => ?_
        refine SteadyYields.skip (SteadyYields.steady
          (steadyYields_recorded fun g hg => ⟨previous, ?_⟩)) fun _ => hothers
        refine ⟨hg.done (hread previous rfl), rfl, fun revision hrevision => ?_,
          .inl ⟨(hg₁.trans hg).call ▸ hsets, rfl⟩⟩
        rw [(hg₁.trans hg).call, expects_of_sets hsets] at hrevision
        cases hrevision

/-- A revalidation withdraws authorizations at most. -/
lemma steady_revalidate (hsets : g₀.1.sets = none) : Steady g₀ (revalidate security id).run := by
  refine bindExcept (steady_reads reads_require) fun _ => ?_
  refine bindExcept (steady_reads (reads_readConnection id)) fun row => ?_
  refine bindExcept steady_ofExcept fun _ => ?_
  refine bindExcept (steady_secretStore rfl) fun credential => ?_
  refine bindExcept (Keeps.except steady_validateAndDiscover) fun answer => ?_
  rcases answer with error | discovery
  · exact bindExcept (steady_recorded rfl) fun _ =>
      bindExcept (steady_recorded rfl) fun _ => keeps_throw
  · refine bindExcept steady_ofExcept fun _ => ?_
    refine bindExcept (steady_recorded rfl) fun oldAccounts => ?_
    refine bindExcept (steady_reads reads_accessChanged) fun changed => ?_
    refine bindExcept (steady_recorded rfl) fun _ => ?_
    refine bindExcept (steady_recorded rfl) fun _ => ?_
    refine bindExcept (steady_recorded rfl) fun persisted => ?_
    refine bindExcept (steady_revokeInvalidAuthorizations hsets) fun _ => ?_
    refine bindExcept (steady_recorded rfl) fun _ => ?_
    exact bindExcept (steady_recorded rfl) fun _ => keeps_pure

/-- The rotation of a secret reads it and writes it. -/
lemma steady_rotateSecret {ref : CredentialRef} {context : CredentialContext}
    {secret : SecretBytes} : Steady g₀ (rotateSecret ref context secret) := by
  refine Keeps.bind (steady_trySecretStore rfl) fun current => ?_
  rcases current with error | _
  · exact keeps_pure
  · exact steady_trySecretStore rfl

/-- What is written after a rotation withdraws authorizations at most. -/
lemma steady_persistRotation (hsets : g₀.1.sets = none) :
    Steady g₀ (persistRotation security previous row accounts).run := by
  refine bindExcept (steady_recorded rfl) fun _ => ?_
  refine bindExcept (steady_recorded rfl) fun _ => ?_
  refine bindExcept (steady_recorded rfl) fun persisted => ?_
  refine bindExcept (steady_revokeInvalidAuthorizations hsets) fun _ => ?_
  exact steady_recorded rfl

/-- So does a whole rotation, with its compensation. -/
lemma steady_rotateCredential (hsets : g₀.1.sets = none) {newCredential : SecretBytes} :
    Steady g₀ (rotateCredential security id newCredential).run := by
  refine bindExcept (steady_reads reads_require) fun _ => ?_
  refine bindExcept (steady_reads (reads_readConnection id)) fun previous => ?_
  refine bindExcept (Keeps.except steady_validateAndDiscover) fun answer => ?_
  refine bindExcept steady_ofExcept fun discovery => ?_
  refine bindExcept steady_ofExcept fun _ => ?_
  refine bindExcept (steady_secretStore rfl) fun credential => ?_
  refine bindExcept (steady_recorded rfl) fun oldAccounts => ?_
  refine bindExcept (steady_reads reads_accessChanged) fun changed => ?_
  refine bindExcept (steady_recorded rfl) fun _ => ?_
  refine bindExcept (steady_recorded rfl) fun _ => ?_
  refine bindExcept (Keeps.except steady_rotateSecret) fun rotation => ?_
  rcases rotation with error | fingerprint
  · exact bindExcept (steady_attempt (steady_recorded rfl)) fun _ => keeps_throw
  · refine bindExcept (steady_attempt (steady_persistRotation hsets))
      fun persistence => ?_
    rcases persistence with error | _
    · have hcompensate : Steady g₀ (compensateRotation previous credential oldAccounts) :=
        Keeps.bind steady_rotateSecret fun _ => Keeps.bind (steady_recorded rfl) fun _ =>
          Keeps.bind (steady_recorded rfl) fun _ => keeps_pure
      refine bindExcept (Keeps.except hcompensate) fun restored => ?_
      cases restored
      · exact bindExcept (Keeps.except (steady_trySecretStore rfl)) fun _ => keeps_throw
      · exact keeps_throw
    · exact keeps_pure

/-- The first step of a call that disables. -/
lemma steady_startDisable : Steady g₀ (startDisable security row).run := by
  unfold startDisable
  split_ifs
  · exact keeps_pure
  · exact bindExcept (steady_recorded rfl) fun _ => keeps_pure

/-- The deletion of a secret, which may be gone already. -/
lemma steady_dropSecret {ref : CredentialRef} : Steady g₀ (dropSecret ref).run := by
  refine bindExcept (Keeps.except (steady_trySecretStore rfl)) fun result => ?_
  rcases result with (_ | _) | _ <;> exact keeps_pure

/-- A binding is a plain operation after reads. -/
lemma steady_bindAccount :
    Steady g₀ (bindAccount security id providerAccountId voxAccountId).run := by
  refine bindExcept (steady_reads reads_require) fun _ => ?_
  refine bindExcept (steady_reads (reads_readConnection id)) fun row => ?_
  refine bindExcept steady_ofExcept fun _ => ?_
  refine bindExcept (steady_recorded rfl) fun accounts => ?_
  refine bindExcept steady_ofExcept fun account => ?_
  refine bindExcept steady_ofExcept fun _ => ?_
  refine bindExcept (Keeps.except (steady_plain (performs_perform rfl)))
    fun _ => ?_
  exact bindExcept (steady_recorded rfl) fun _ => keeps_pure

/-- The authorizations of an onboarding are the initial ones. -/
lemma steady_finishOnboarding {discovery : ProviderDiscovery} :
    Steady g₀ (finishOnboarding security row discovery audits).run :=
  SteadyYields.steady (steadyYields_recorded fun _ _ => ⟨security, rfl⟩)

/-! ### Deletion and recovery -/

/-- A connection is deleted whose row was read. -/
lemma steady_finalizeConnectionDelete (hdeletes : g₀.1.deletes = true)
    (hrow : ∃ row, ∃ d ∈ g₀.2, (id, row) ∈ d.rows) :
    Steady g₀ (recorded (.finalizeConnectionDelete id) audits).run := by
  obtain ⟨row, hrow⟩ := hrow
  exact SteadyYields.steady (steadyYields_recorded fun g hg =>
    ⟨hg.call ▸ hdeletes, row, hg.done hrow⟩)

/-- The recovery of an onboarding finishes it or ends it. -/
lemma steady_recoverOnboarding :
    Steady g₀ (recoverOnboarding security metadata report row).run := by
  refine bindExcept (Keeps.except (steady_trySecretStore rfl)) fun current => ?_
  -- a missing credential ends the onboarding, any other error the recovery
  rcases current with (_ | _ | _ | _ | _ | _) | credential
  case ok =>
    refine bindExcept (Keeps.except steady_validateAndDiscover) fun answer => ?_
    rcases answer with error | discovery
    · exact bindExcept (steady_recorded rfl) fun _ => keeps_pure
    · exact bindExcept steady_ofExcept fun _ => bindExcept steady_ofExcept
        fun _ => bindExcept steady_finishOnboarding fun _ => keeps_pure
  case error.notFound => exact bindExcept (steady_recorded rfl) fun _ => keeps_pure
  all_goals exact keeps_throw

/-- The recovery of a call that disables. -/
lemma steady_recoverDisable : Steady g₀ (recoverDisable security report row).run := by
  refine bindExcept (Keeps.except (steady_trySecretStore rfl)) fun result => ?_
  rcases result with (_ | _ | _ | _ | _ | _) | _
  case ok => exact bindExcept (steady_recorded rfl) fun _ => keeps_pure
  case error.disabled => exact bindExcept (steady_recorded rfl) fun _ => keeps_pure
  all_goals exact keeps_throw

/-- The recovery of a connection that should be valid revalidates it. -/
lemma steady_recoverValid (hsets : g₀.1.sets = none) :
    Steady g₀ (recoverValid security metadata row).run := by
  unfold recoverValid
  split_ifs
  · refine bindExcept (steady_attempt (steady_revalidate hsets)) fun result => ?_
    rcases result with error | recovered
    · cases error <;> exact keeps_pure
    · exact bindExcept steady_ofExcept fun _ => steady_recorded rfl
  · refine bindExcept (Keeps.except (steady_trySecretStore rfl)) fun current => ?_
    rcases current with (_ | _ | _ | _ | _ | _) | _
    case error.notFound => exact steady_recorded rfl
    case error.disabled => exact steady_recorded rfl
    all_goals exact keeps_pure
  · exact keeps_pure

/-- The recovery of connections whose rows were read. -/
lemma steady_recoverConnections (hsets : g₀.1.sets = none) (hdeletes : g₀.1.deletes = true)
    (hrows : ∀ row ∈ rows, ∃ d ∈ g₀.2, (row.id, row) ∈ d.rows) :
    Steady g₀ (recoverConnections security metadata report rows).run := by
  induction rows generalizing report with
  | nil => exact keeps_pure
  | cons row others ih =>
    refine bindExcept ?_ fun _ =>
      ih fun row hrow => hrows row (List.mem_cons_of_mem _ hrow)
    unfold recoverConnection
    split
    · exact steady_recoverOnboarding
    · exact bindExcept steady_dropSecret fun _ => bindExcept
        (steady_finalizeConnectionDelete hdeletes ⟨row, hrows row List.mem_cons_self⟩) fun _ =>
          keeps_pure
    · exact steady_recoverDisable
    · exact bindExcept (steady_recoverValid hsets) fun _ => keeps_pure
    · exact keeps_pure

/-- Secrets without a connection are put aside one by one. -/
lemma steady_quarantineOrphans :
    Steady g₀ (quarantineOrphans security rows report metadata).run := by
  induction metadata generalizing report with
  | nil => exact keeps_pure
  | cons first others ih =>
    unfold quarantineOrphans
    split_ifs
    · exact ih
    · refine bindExcept ?_ fun _ => bindExcept (steady_recorded rfl) fun _ => ih
      unfold quarantine
      split
      · exact keeps_pure
      · exact steady_secretStore rfl

/-- **The whole recovery is steady.** -/
lemma steady_recoverConnectionLifecycle (hsets : g₀.1.sets = none)
    (hdeletes : g₀.1.deletes = true) :
    Steady g₀ (recoverConnectionLifecycle security).run := by
  refine SteadyYields.steady (P := fun _ _ => True)
    (SteadyYields.bind (steadyYields_recorded fun _ _ => trivial)
    fun (rows : List BrokerConnection) g hg hread => ?_)
  refine SteadyYields.skip (steady_secretStore rfl) fun metadata => ?_
  refine SteadyYields.skip (steady_recoverConnections (hg.call ▸ hsets) (hg.call ▸ hdeletes)
    (fun row hrow => ⟨_, hread, ?_⟩)) fun report => ?_
  · exact List.mem_map_of_mem (f := fun row => (row.id, row)) hrow
  · exact steadyYields_of_steady steady_quarantineOrphans

end Keeping

/-! ## Calls for access -/

variable {expectedRevision : Option ℕ}

section Access

variable {g₀ : Call × List Done}

/-- Reading the row of a connection. -/
lemma steadyYields_readConnection (id : ConnectionId) :
    SteadyYields g₀ (fun row h => ∃ d ∈ h, (id, row) ∈ d.rows) (readConnection id) := by
  refine SteadyYields.bind (steadyYields_recorded fun _ _ => trivial) fun found g _ hread => ?_
  refine steadyYields_ofExcept.mono fun row g' hg' hrow => ⟨_, hg'.later hread, ?_⟩
  rw [Except.orStop_eq_ok.mp hrow]
  exact List.mem_singleton_self _

/-- A program that asks for a credential and after that for no other. -/
lemma steadyYields_readCredential {β : Type} (row : BrokerConnection) {f : SecretBytes → Service β}
    (hf : ∀ credential, (f credential).run.Performs fun op : Op =>
      op.plain = true ∧ op.asks = false) :
    SteadyYields g₀ (fun _ h => ∃ d, h.find? Done.asks = some d ∧ d.got = some row.credentialRef)
      (readCredential row >>= f) := by
  let Last (g : Call × List Done) : Prop := Goes g₀ g ∧
    ∃ d, g.2.find? Done.asks = some d ∧ d.got = some row.credentialRef
  have hread (g) (hg : Goes g₀ g) :
      Yields ruleDiscipline (fun _ => Last) (Goes g₀) (readCredential row) g := by
    refine yields_orFail ⟨trivial, fun r => ?_⟩
    rcases r with e | credential
    · exact hg.next _ _
    · exact ⟨hg.next _ _, _, rfl, rfl⟩
  -- what is done afterwards does not change what was asked for last
  have hlast (credential) : Keeps ruleDiscipline Last (f credential).run :=
    Performs.keeps (hf credential) fun op hop g hg => ⟨rule_of_plain hop.1 g.1 g.2, fun r =>
      ⟨hg.1.next op r, by simpa [ruleDiscipline, Done.asks, hop.2] using hg.2⟩⟩
  refine fun g hg => (hread g hg).bind fun credential g' h => ?_
  refine Follows.mono (fun result _ h => ?_) (hlast credential g' h)
  cases result with
  | ok => exact h
  | error => exact h.1

/-- A usable account belongs to a connection whose row was read. -/
lemma steadyYields_boundHealthyTarget (id : ConnectionId) (providerAccountId : String)
    (voxAccountId : VoxAccountId) :
    SteadyYields g₀ (fun bound h => ∃ d ∈ h, (id, bound.connection) ∈ d.rows)
      (boundHealthyTarget id providerAccountId voxAccountId) := by
  refine (steadyYields_readConnection id).bind fun row g₁ _ hrow => ?_
  refine SteadyYields.skip steady_ofExcept fun _ => ?_
  refine SteadyYields.skip (steady_recorded rfl) fun accounts => ?_
  refine SteadyYields.skip steady_ofExcept fun account => ?_
  refine SteadyYields.skip steady_ofExcept fun _ => ?_
  refine SteadyYields.skip (steady_recorded rfl) fun bindings => ?_
  refine SteadyYields.skip steady_ofExcept fun _ => ?_
  exact steadyYields_pure fun g hg => hg.done hrow

variable {id : ConnectionId} {g g' : Call × List Done}

/-- Access for reading. -/
lemma steadyYields_validateReadAccess :
    SteadyYields g₀ (fun _ => Shown id) (validateReadAccess id providerAccountId voxAccountId) := by
  refine (steadyYields_boundHealthyTarget id providerAccountId voxAccountId).bind
    fun bound g₁ _ hrow => ?_
  exact (steadyYields_readCredential bound.connection fun _ => performs_pure).mono
    fun _ g hg hgot => ⟨bound.connection, hg.done hrow, hgot⟩

/-- Access for sending orders. -/
lemma steadyYields_validateExecutionAccess {purpose : ExecutionPurpose} :
    SteadyYields g₀ (fun _ h => Shown id h ∧
      ∀ revision, expectedRevision = some revision → Checked id providerAccountId revision h)
      (validateExecutionAccess id providerAccountId voxAccountId purpose expectedRevision) := by
  refine (steadyYields_boundHealthyTarget id providerAccountId voxAccountId).bind
    fun bound g₁ _ hrow => ?_
  refine (steadyYields_authorization id providerAccountId).bind fun stored g₂ hg₂ hread => ?_
  refine steadyYields_ofExcept.bind fun found g₃ hg₃ hfound => ?_
  refine steadyYields_ofExcept.bind fun _ g₄ hg₄ hfresh => ?_
  refine SteadyYields.skip steady_ofExcept fun _ => ?_
  refine SteadyYields.skip steady_ofExcept fun _ => ?_
  refine (steadyYields_readCredential bound.connection fun _ => performs_pure).mono
    fun _ g hg hgot => ⟨⟨bound.connection, (hg₂.trans (hg₃.trans (hg₄.trans hg))).done hrow, hgot⟩,
      ?_⟩
  rintro revision rfl
  have hsame : revision = found.authorizationRevision := by
    simpa using Except.stopIf_eq_ok.mp hfresh
  obtain ⟨d, hd, hread⟩ := hread found (Except.orStop_eq_ok.mp hfound)
  exact ⟨d, (hg₃.trans (hg₄.trans hg)).later hd, found, hread, hsame.symm⟩

/-- Access for sending orders, for the Vox account the account is bound to now. -/
lemma steadyYields_validateRuntimeExecutionAccess {purpose : ExecutionPurpose} :
    SteadyYields g₀ (fun _ h => Shown id h ∧
      ∀ revision, expectedRevision = some revision → Checked id providerAccountId revision h)
      (validateRuntimeExecutionAccess id providerAccountId purpose expectedRevision) :=
  SteadyYields.skip (steady_reads reads_boundVoxAccount) fun _ =>
    steadyYields_validateExecutionAccess

/-- Building a client asks for no credential. -/
lemma performs_buildClient {target : AccountTarget} {credential : SecretBytes} :
    (buildClient target credential).run.Performs fun op : Op =>
      op.plain = true ∧ op.asks = false :=
  Performs.orFail (performs_perform ⟨rfl, rfl⟩)

end Access

/-! ## The other calls that the rule is about -/

variable {security : SecurityContext}

section Calls

variable {g₀ g : Call × List Done}

/-- A call that deletes a connection has read its row. -/
lemma steady_deleteConnection (hdeletes : g₀.1.deletes = true) :
    Steady g₀ (deleteConnection security id).run := by
  refine SteadyYields.steady (P := fun _ _ => True) (SteadyYields.skip (steady_reads reads_require)
    fun _ => ?_)
  refine (steadyYields_readConnection id).bind fun row g hg hrow => ?_
  refine SteadyYields.skip steady_ofExcept fun _ => ?_
  refine SteadyYields.skip (steady_recorded rfl) fun _ => ?_
  refine SteadyYields.skip steady_dropSecret fun _ => ?_
  exact steadyYields_of_steady (steady_finalizeConnectionDelete (hg.call ▸ hdeletes) ⟨row, hrow⟩)

/-- A call that disables a connection has read its row and disabled its credential. -/
lemma steadyYields_disableConnection (security : SecurityContext) (id : ConnectionId) :
    SteadyYields g₀ (fun _ h => ∃ row, (∃ d ∈ h, (id, row) ∈ d.rows) ∧
      ∃ d ∈ h, d.cut = some row.credentialRef) (disableConnection security id) := by
  refine SteadyYields.skip (steady_reads reads_require) fun _ => ?_
  refine (steadyYields_readConnection id).bind fun found g₁ _ hrow => ?_
  -- the row that is written back refers to the same credential
  have hsame : Ensures (fun row => row.credentialRef = found.credentialRef)
      (startDisable security found) := by
    unfold startDisable
    split_ifs
    · exact ensures_pure rfl
    · exact ensures_bind fun _ => ensures_pure rfl
  refine (steadyYields_of_ensures steady_startDisable hsame).bind
    fun row g₂ hg₂ hrefers => ?_
  refine SteadyYields.bind (steadyYields_secretStore fun _ _ => trivial) fun _ g₃ hg₃ hcut => ?_
  refine SteadyYields.skip (steady_recorded rfl) fun _ => steadyYields_pure fun g hg => ?_
  exact ⟨found, (hg₂.trans (hg₃.trans hg)).done hrow, _, hg.later hcut, congrArg some hrefers⟩

/-- The permission of a caller who passes the check was seen. -/
lemma steadyYields_require (security : SecurityContext) {permission : Permission} :
    SteadyYields g₀ (fun _ h => ∃ d ∈ h, permission ∈ d.granted security.actor)
      (require security permission) := by
  refine SteadyYields.bind (steadyYields_recorded fun _ _ => trivial)
    fun (granted : List Permission) g _ hread => ?_
  refine steadyYields_ofExcept.mono fun _ g' hg' hcheck => ⟨_, hg'.later hread, ?_⟩
  have hheld : permission ∈ granted := not_not.mp (Except.stopIf_eq_ok.mp hcheck)
  simpa [Done.granted, Done.granted.held] using hheld

/-- A plain operation uses no UUID. -/
lemma unused_of_plain (h : op.plain = true) (r : op.Res) :
    Done.usedId ⟨op, r⟩ = none ∧ Done.usedRef ⟨op, r⟩ = none := by
  rcases op with (_ | _) | (_ | _) | _ | _ | _ | _ <;> first | exact ⟨rfl, rfl⟩ | cases h

/-- What is created has UUIDs that were drawn for it. -/
lemma yields_createConnection (security : SecurityContext) (request : CreateConnectionRequest)
    (credential : SecretBytes) (hfirst : g.2 = []) :
    Yields ruleDiscipline (fun _ g' => Goes g g') (Goes g)
      (createConnection security request credential) g := by
  -- nothing is used before the row is inserted
  let Fresh (g' : Call × List Done) : Prop :=
    Goes g g' ∧ ∀ d ∈ g'.2, d.usedId = none ∧ d.usedRef = none
  have hfresh {op : Op} {r : op.Res} {g' : Call × List Done} (hop : op.plain = true)
      (hg' : Fresh g') : Fresh (g'.1, ⟨op, r⟩ :: g'.2) :=
    ⟨hg'.1.next op r, fun d hd => (List.mem_cons.mp hd).elim
      (fun heq => heq ▸ unused_of_plain hop r) (hg'.2 d)⟩
  have hplain {α β : Type} {x : Service α} {f : α → Service β} {Q : β → Call × List Done → Prop}
      (hx : x.run.Performs (Op.plain · = true))
      (hf : ∀ a g', Fresh g' → Yields ruleDiscipline Q (Goes g) (f a) g') {g' : Call × List Done}
      (hg' : Fresh g') : Yields ruleDiscipline Q (Goes g) (x >>= f) g' := by
    have hkeeps : Keeps ruleDiscipline Fresh x.run := Performs.keeps hx fun op hop g hg =>
      ⟨rule_of_plain hop g.1 g.2, fun r => hfresh hop hg⟩
    exact (hkeeps g' hg').bindExcept (fun _ _ h => h.1) hf
  have hfirst : Fresh g := ⟨.refl g, fun d hd => by rw [hfirst] at hd; cases hd⟩
  refine hplain (Performs.mono plain_of_reads reads_require) (fun _ g₁ => ?_) hfirst
  refine hplain performs_ofExcept fun _ g₂ => ?_
  refine hplain (Performs.except (performs_perform rfl)) fun answer g₃ => ?_
  refine hplain performs_ofExcept fun discovery g₄ => ?_
  refine hplain performs_ofExcept fun _ g₅ h₅ => ?_
  refine follows_bindExcept (follows_liftExcept.mpr ⟨trivial, fun id => ?_⟩)
  refine follows_bindExcept (follows_liftExcept.mpr ⟨trivial, fun ref => ?_⟩)
  have h₇ : Fresh (g₅.1, ⟨.newUuid, ref⟩ :: ⟨.newUuid, id⟩ :: g₅.2) := hfresh rfl (hfresh rfl h₅)
  refine follows_bindExcept (follows_orFail.mpr ⟨⟨⟨⟨.newUuid, id⟩,
    List.mem_cons_of_mem _ List.mem_cons_self, rfl⟩, fun d hd => ?_⟩, fun inserted => ?_⟩)
  · rw [(h₇.2 d hd).1]
    nofun
  rcases inserted with e | _
  · exact h₇.1.next _ _
  refine follows_bindExcept (follows_orFail.mpr ⟨⟨⟨⟨.newUuid, ref⟩,
    List.mem_cons_of_mem _ List.mem_cons_self, rfl⟩, fun d hd => ?_⟩, fun stored => ?_⟩)
  · rcases List.mem_cons.mp hd with rfl | hd
    · nofun
    · rw [(h₇.2 d hd).2]
      nofun
  rcases stored with e | fingerprint
  · exact (h₇.1.next _ _).next _ _
  refine follows_bindExcept (Follows.mono (fun result g' h => ?_)
    (steady_attempt steady_finishOnboarding _ ((h₇.1.next _ _).next _ _)))
  rcases result with error | (error | _)
  · exact h
  · exact Follows.mono (fun result _ h => by cases result <;> exact h)
      (bindExcept (Keeps.except (steady_trySecretStore rfl)) (fun _ => keeps_throw) g' h)
  · exact h

/-- A call that has changed nothing. -/
structure Silent (g g' : Call × List Done) : Prop extends Goes g g' where
  silent : ∀ d ∈ g'.2, d.wrote = false

/-- A read writes nothing. -/
lemma wrote_of_reads (h : op.reads = true) (r : op.Res) : Done.wrote ⟨op, r⟩ = false := by
  rcases op with ⟨op, audits⟩ | op | _ | _ | _ | _
  · simp [Done.wrote, h]
  · simp [Done.wrote, h]
  all_goals rfl

/-- An operation that writes nothing keeps a call silent. -/
lemma Silent.next {g g' : Call × List Done} (h : Silent g g') {r : op.Res}
    (hwrote : Done.wrote ⟨op, r⟩ = false) : Silent g (g'.1, ⟨op, r⟩ :: g'.2) :=
  ⟨h.toGoes.next op r, fun d hd =>
    (List.mem_cons.mp hd).elim (fun heq => heq ▸ hwrote) (h.silent d)⟩

/-- A call that begins has written nothing. -/
lemma Silent.start (call : Call) : Silent (call, []) (call, []) :=
  ⟨.refl _, fun _ hd => by cases hd⟩

/-- A program of a call that has changed nothing: if it fails, that is still so. -/
def SilentOnError {α : Type} (g₀ : Call × List Done) (x : Service α) : Prop :=
  ∀ g, Silent g₀ g → Yields ruleDiscipline (fun _ g' => Goes g₀ g') (Silent g₀) x g

section

variable {α β : Type} {P : α → List Done → Prop} {x : Service α} {f : α → Service β}

/-- Reading changes nothing. -/
lemma keeps_silent {x : Process service α} (hx : Reads x) : Keeps ruleDiscipline (Silent g₀) x :=
  Performs.keeps hx fun op hop g hg =>
    ⟨rule_of_plain (plain_of_reads op hop) g.1 g.2, fun r => hg.next (wrote_of_reads hop r)⟩

/-- After a program that has read something, the call goes on from there. -/
lemma SilentOnError.bind (hx : SteadyYields g₀ P x) (hreads : Reads x.run)
    (hf : ∀ a g, Silent g₀ g → P a g.2 → SilentOnError g (f a)) : SilentOnError g₀ (x >>= f) := by
  refine fun g hg => (Follows.and (hx g hg.toGoes) (keeps_silent hreads g hg)).bindExcept
    (fun _ _ h => h.2) fun a g₁ h => ?_
  refine Follows.mono (fun result g' h' => ?_) (hf a g₁ h.2 h.1.2 g₁ ⟨.refl g₁, h.2.silent⟩)
  cases result with
  | ok => exact h.2.toGoes.trans h'
  | error => exact ⟨h.2.toGoes.trans h'.toGoes, h'.silent⟩

/-- Reads may come first. -/
lemma SilentOnError.skip (hx : Reads x.run) (hf : ∀ a, SilentOnError g₀ (f a)) :
    SilentOnError g₀ (x >>= f) := by
  exact fun g hg => (keeps_silent hx g hg).bindExcept (fun _ _ h => h) hf

end

/-- A change of a mode that passes the check lowers it, or the caller has the permission. -/
lemma steadyYields_requireAuthorizationTransition (security : SecurityContext)
    (environment : BrokerEnvironment) (previous mode : ExecutionAuthorizationMode) :
    SteadyYields g₀ (fun _ h => authorizationRank mode < authorizationRank previous ∨ ∃ d ∈ h,
        transitionPermission environment previous mode ∈ d.granted security.actor)
      (requireAuthorizationTransition security environment previous mode) := by
  have hlower : Ensures (fun allowed => allowed = true →
      authorizationRank mode < authorizationRank previous) (mayLower security previous mode) := by
    unfold mayLower
    split_ifs with hrank
    · exact returns_of_forall fun _ _ _ _ => hrank
    · exact ensures_pure nofun
  refine (steadyYields_of_ensures (steady_reads (reads_mayLower security previous mode))
    hlower).bind fun allowed g₁ _ hrank => ?_
  split_ifs with hallowed
  · exact steadyYields_pure fun _ _ => .inl (hrank hallowed)
  · exact (steadyYields_require security).mono fun _ _ _ h => .inr h

/-- The change of a mode is based on the authorization that was read and on a permission. -/
lemma silentOnError_setExecutionAuthorizationCas {mode : ExecutionAuthorizationMode}
    {expectedRevision : ℕ} (hsets : g₀.1.sets = some (id, providerAccountId, mode))
    (hactor : g₀.1.actor = some security.actor)
    (hexpects : ∀ revision, g₀.1.expects = some revision → expectedRevision = revision) :
    SilentOnError g₀
      (setExecutionAuthorizationCas security id providerAccountId mode expectedRevision) := by
  refine SilentOnError.bind (steadyYields_readConnection id) (reads_readConnection id)
    fun row g₁ h₁ hrow => ?_
  refine SilentOnError.bind (steadyYields_authorization _ _) (performs_recorded rfl)
    fun stored g₂ h₂ hread => ?_
  refine SilentOnError.bind steadyYields_ofExcept performs_ofExcept
    fun previous g₃ h₃ hprevious => ?_
  refine SilentOnError.bind steadyYields_ofExcept performs_ofExcept fun _ g₄ h₄ hcheck => ?_
  refine SilentOnError.bind (steadyYields_requireAuthorizationTransition security row.environment
    previous.mode mode) reads_requireAuthorizationTransition fun _ g₅ h₅ hallowed => ?_
  refine SilentOnError.skip (performs_recorded rfl) fun accounts => ?_
  refine SilentOnError.skip performs_ofExcept fun account => ?_
  refine SilentOnError.skip (performs_recorded rfl) fun bindings => ?_
  refine SilentOnError.skip performs_ofExcept fun binding => ?_
  refine SilentOnError.skip performs_ofExcept fun _ => ?_
  refine SilentOnError.skip performs_ofExcept fun revision => ?_
  intro g hg
  have h₂g := h₃.toGoes.trans (h₄.toGoes.trans (h₅.toGoes.trans hg.toGoes))
  have h₁g := h₂.toGoes.trans h₂g
  have hcall := (h₁.toGoes.trans h₁g).call
  have hrevision : previous.authorizationRevision = expectedRevision :=
    not_not.mp (Except.stopIf_eq_ok.mp hcheck)
  refine follows_bindExcept (follows_orFail.mpr ⟨⟨previous, ?_⟩, fun written => ?_⟩)
  · refine ⟨h₂g.done (hread previous (Except.orStop_eq_ok.mp hprevious)), rfl,
      fun expected hexpected => hrevision.trans (hexpects expected (hcall ▸ hexpected)),
      .inr ⟨hcall ▸ hsets, row, h₁g.done hrow, ?_⟩⟩
    exact hallowed.imp_right fun hgranted => ⟨_, hcall ▸ hactor, hg.toGoes.done hgranted⟩
  · rcases written with e | _
    · exact hg.next rfl
    · exact hg.toGoes.next _ _

end Calls

/-! ## All calls -/

/-- A call that replies with what its program yields. -/
lemma follows_replyWith {α : Type} {x : Service α} {answer : α → Answer}
    (hx : Yields ruleDiscipline (fun _ g' => ReplyRule g'.1 g'.2)
      (fun g' => g'.1.sets ≠ none → ∀ d ∈ g'.2, d.wrote = false) x g) :
    Follows ruleDiscipline (fun _ _ => True) (replyWith answer x) g := by
  refine follows_bind.mpr (Follows.mono (fun result g' h => ?_) hx)
  rcases result with error | a
  all_goals exact ⟨h, fun _ => trivial⟩

/-- A call that grants and disables nothing has nothing to show. -/
lemma replyRule_of_none (haccess : call.accessTo = none) (hdisables : call.disables = none)
    (hexecutes : call.executesOn = none) (h : List Done) : ReplyRule call h := by
  refine ⟨fun id hid => ?_, fun id hid => ?_, fun id providerAccountId revision hid => ?_⟩
  · cases haccess.symm.trans hid
  · cases hdisables.symm.trans hid
  · cases hexecutes.symm.trans hid

section

variable {α : Type} {x : Service α} {answer : α → Answer} {call : Call}

/-- A call that replies in accordance with the rule, if it has a value. -/
lemma follows_yieldingCall {P : α → List Done → Prop} (hx : SteadyYields (call, []) P x)
    (hsets : call.sets = none) (hreply : ∀ a h, P a h → ReplyRule call h) :
    Follows ruleDiscipline (fun _ _ => True) (replyWith answer x) (call, []) := by
  refine follows_replyWith (Follows.mono (fun result g' h => ?_) (hx (call, []) (.refl _)))
  cases result with
  | ok a =>
    have hcall : g'.1 = call := h.1.call
    change ReplyRule g'.1 g'.2
    rw [hcall]
    exact hreply a g'.2 h.2
  | error =>
    have hcall : g'.1 = call := h.call
    exact fun hno => absurd (hcall ▸ hsets) hno

/-- A steady call that grants and disables nothing. -/
lemma follows_steadyCall (hx : Steady (call, []) x.run) (hsets : call.sets = none)
    (haccess : call.accessTo = none) (hdisables : call.disables = none)
    (hexecutes : call.executesOn = none) :
    Follows ruleDiscipline (fun _ _ => True) (replyWith answer x) (call, []) :=
  follows_yieldingCall (steadyYields_of_steady hx) hsets fun _ h _ =>
    replyRule_of_none haccess hdisables hexecutes h

/-- A call for access. -/
lemma follows_accessCall {P : α → List Done → Prop} (hx : SteadyYields (call, []) P x)
    (hsets : call.sets = none) (haccess : call.accessTo = some id)
    (hdisables : call.disables = none) (hshown : ∀ a h, P a h → Shown id h)
    (hexecutes : ∀ a h, P a h → ∀ id providerAccountId revision,
      call.executesOn = some (id, providerAccountId, revision) →
        Checked id providerAccountId revision h) :
    Follows ruleDiscipline (fun _ _ => True) (replyWith answer x) (call, []) := by
  refine follows_yieldingCall hx hsets fun a h hP =>
    ⟨fun id' hid' => ?_, fun id' hid' => ?_, hexecutes a h hP⟩
  · cases haccess.symm.trans hid'
    exact hshown a h hP
  · cases hdisables.symm.trans hid'

/-- A call that sets a mode. -/
lemma follows_setCall (hx : SilentOnError (call, []) x) (haccess : call.accessTo = none)
    (hdisables : call.disables = none) (hexecutes : call.executesOn = none) :
    Follows ruleDiscipline (fun _ _ => True) (replyWith answer x) (call, []) := by
  refine follows_replyWith (Follows.mono (fun result g' h => ?_) (hx (call, []) (.start call)))
  cases result with
  | ok =>
    have hcall : g'.1 = call := h.call
    exact replyRule_of_none (hcall ▸ haccess) (hcall ▸ hdisables) (hcall ▸ hexecutes) g'.2
  | error => exact fun _ => h.silent

end

/-- A role changes when the caller was seen to be an administrator. -/
lemma steady_roleChange {op : RepositoryOp}
    (hactor : g.1.actor = some security.actor)
    (hadmin : ∃ d ∈ g.2, Permission.securityAdmin ∈ d.granted security.actor)
    (hrule : ∀ call h, (∃ actor, Call.actor call = some actor ∧
      ∃ d ∈ h, Permission.securityAdmin ∈ d.granted actor) → Rule call h (.repository op audits)) :
    Steady g (recorded op audits).run :=
  SteadyYields.steady (steadyYields_recorded fun _ hg =>
    hrule _ _ ⟨_, hg.call ▸ hactor, hg.done hadmin⟩)

/-- The revision that a call expects was read. -/
lemma checked_of_executesOn {id id' : ConnectionId} {providerAccountId providerAccountId' : String}
    {revision' : ℕ} {h : List Done}
    (hchecked : ∀ revision, expectedRevision = some revision →
      Checked id providerAccountId revision h)
    (heq : expectedRevision.map (fun revision => (id, providerAccountId, revision)) =
      some (id', providerAccountId', revision')) : Checked id' providerAccountId' revision' h := by
  obtain ⟨revision, hrevision, heq⟩ := Option.map_eq_some_iff.mp heq
  cases heq
  exact hchecked revision' hrevision

/-- **Every call keeps to the rule.** -/
lemma follows_call {call : Call} :
    Follows ruleDiscipline (fun _ _ => True) call.program (call, []) := by
  cases call with
  | createConnection security request credential =>
    refine follows_replyWith (Follows.mono (fun result g' h => ?_)
      (yields_createConnection security
        request credential rfl))
    cases result with
    | ok =>
      have hcall : g'.1 = .createConnection security request credential := h.call
      change ReplyRule g'.1 g'.2
      rw [hcall]
      exact replyRule_of_none rfl rfl rfl g'.2
    | error => exact fun hno => absurd (congrArg Call.sets h.call) hno
  | revalidate =>
    exact follows_steadyCall (steady_revalidate rfl) rfl rfl rfl rfl
  | rotateCredential =>
    exact follows_steadyCall (steady_rotateCredential rfl) rfl rfl rfl rfl
  | disableConnection security id =>
    refine follows_yieldingCall (steadyYields_disableConnection security id) rfl fun _ h hcut =>
      ⟨nofun, fun id' hid' => ?_, nofun⟩
    cases hid'
    exact hcut
  | deleteConnection =>
    exact follows_steadyCall (steady_deleteConnection rfl) rfl rfl rfl rfl
  | recoverConnectionLifecycle =>
    exact follows_steadyCall (steady_recoverConnectionLifecycle rfl rfl) rfl rfl rfl rfl
  | bindAccount =>
    exact follows_steadyCall steady_bindAccount rfl rfl rfl rfl
  | unbindAccount security bindingId | disableBinding security bindingId
  | listConnections =>
    exact follows_steadyCall (bindExcept (steady_reads reads_require) fun _ =>
      steady_recorded rfl) rfl rfl rfl rfl
  | setExecutionAuthorization =>
    refine follows_setCall ?_ rfl rfl rfl
    refine SilentOnError.skip (performs_recorded rfl) fun stored => ?_
    refine SilentOnError.skip performs_ofExcept fun previous => ?_
    exact silentOnError_setExecutionAuthorizationCas rfl rfl nofun
  | setExecutionAuthorizationCas =>
    exact follows_setCall (silentOnError_setExecutionAuthorizationCas rfl rfl fun revision h =>
      Option.some.inj h) rfl rfl rfl
  | replaceRole security =>
    refine follows_steadyCall (SteadyYields.steady (P := fun _ _ => True) ?_) rfl rfl rfl rfl
    refine (steadyYields_require security).bind fun _ g hg hadmin => ?_
    exact SteadyYields.skip steady_ofExcept fun _ => steadyYields_of_steady
      (steady_roleChange (hg.call ▸ rfl) hadmin fun _ _ h => h)
  | grantRole security =>
    refine follows_steadyCall (SteadyYields.steady (P := fun _ _ => True) ?_) rfl rfl rfl rfl
    refine (steadyYields_require security).bind fun _ g hg hadmin => ?_
    exact steadyYields_of_steady (steady_roleChange (hg.call ▸ rfl) hadmin fun _ _ h => h)
  | discoveredAccounts security id | accountBindings security id =>
    exact follows_steadyCall (bindExcept (steady_reads reads_require) fun _ =>
      bindExcept (steady_reads (reads_readConnection id)) fun _ => steady_recorded rfl)
      rfl rfl rfl rfl
  | executionAuthorization security id =>
    exact follows_steadyCall (bindExcept (steady_reads reads_require) fun _ =>
      bindExcept (steady_reads (reads_readConnection id)) fun _ =>
        bindExcept (steady_recorded rfl) fun _ => steady_ofExcept) rfl rfl rfl rfl
  | validateReadAccess =>
    exact follows_accessCall steadyYields_validateReadAccess rfl rfl rfl (fun _ _ h => h)
      fun _ _ _ _ _ _ heq => by cases heq
  | validateExecutionAccess id providerAccountId voxAccountId purpose expectedRevision =>
    refine follows_accessCall steadyYields_validateExecutionAccess rfl rfl rfl
      (fun _ _ h => h.1) fun _ h hP id' providerAccountId' revision' heq => ?_
    exact checked_of_executesOn hP.2 (by cases expectedRevision <;> exact heq)
  | validateRuntimeReadAccess =>
    exact follows_accessCall (SteadyYields.skip (steady_reads reads_boundVoxAccount) fun _ =>
      steadyYields_validateReadAccess) rfl rfl rfl (fun _ _ h => h)
        fun _ _ _ _ _ _ heq => by cases heq
  | validateRuntimeExecutionAccess id providerAccountId purpose expectedRevision =>
    refine follows_accessCall steadyYields_validateRuntimeExecutionAccess rfl rfl rfl
      (fun _ _ h => h.1) fun _ h hP id' providerAccountId' revision' heq => ?_
    exact checked_of_executesOn hP.2 (by cases expectedRevision <;> exact heq)
  | openRuntimeReadClient =>
    refine follows_accessCall ?_ rfl rfl rfl (fun _ _ h => h)
      fun _ _ _ _ _ _ heq => by cases heq
    refine SteadyYields.skip (steady_reads reads_boundVoxAccount) fun voxAccountId => ?_
    refine (steadyYields_boundHealthyTarget _ _ _).bind fun bound g₁ _ hrow => ?_
    exact (steadyYields_readCredential bound.connection fun _ =>
      performs_buildClient.bindExcept fun _ => performs_pure).mono
      fun _ g hg hgot => ⟨bound.connection, hg.done hrow, hgot⟩
  | openRuntimeExecutionClient id providerAccountId purpose expectedRevision =>
    refine follows_accessCall (P := fun _ h => Shown id h ∧
      Checked id providerAccountId expectedRevision h) ?_ rfl rfl rfl (fun _ _ h => h.1) ?_
    · refine steadyYields_validateRuntimeExecutionAccess.bind fun grant g₁ _ hgrant => ?_
      refine (steadyYields_readConnection id).bind fun row g₂ hg₂ hrow => ?_
      -- the credential is read once more, from the row as it is now
      exact (steadyYields_readCredential row fun _ =>
        performs_buildClient.bindExcept fun _ => performs_pure).mono
        fun _ g hg hgot => ⟨⟨row, hg.done hrow, hgot⟩, (hg₂.trans hg).done (hgrant.2 _ rfl)⟩
    · rintro _ h hP id' providerAccountId' revision' heq
      cases heq
      exact hP.2

/-! ## Runs -/

section Runs

variable {fingerprint : SecretBytes → String} {w₀ : World}
  {good : (serviceSystem fingerprint).traced.Condition}
  {c : (serviceSystem fingerprint).traced.Config}
  {trace : List (serviceSystem fingerprint).Performed}

/-- An operation of a run with its result. -/
def done (e : (serviceSystem fingerprint).Performed) : Done := ⟨e.op, e.res⟩

/-- What a call has done. -/
def historyOf (who : ℕ) (trace : List (serviceSystem fingerprint).Performed) : List Done :=
  (trace.filter (·.who = who)).map done

/-- An operation of a call is in its history. -/
lemma mem_historyOf {who : ℕ} {d : Done} :
    d ∈ historyOf who trace ↔ ∃ e ∈ trace, e.who = who ∧ done e = d := by
  simp [historyOf, and_assoc]

/-- It is what the discipline remembers. -/
lemma ghostAt_eq_historyOf (call : Call) (who : ℕ) :
    ghostAt ruleDiscipline (call, []) who trace = (call, historyOf who trace) := by
  induction trace with
  | nil => rfl
  | cons e older ih =>
    by_cases hwho : e.who = who
    · obtain ⟨who', site, op, r⟩ := e
      obtain rfl : who' = who := hwho
      rw [ghostAt_cons_self, ih]
      simp [historyOf, ruleDiscipline, done]
    · rw [ghostAt_cons_of_ne hwho, ih]
      simp [historyOf, hwho]

/-- **Every operation of a run keeps to the rule.** -/
theorem rule_reach (h : Reach good (serviceStart fingerprint w₀) c) {who : ℕ} {site : Call}
    {next : op.Res → Process service Unit}
    (hthread : c.threads[who]? = some (site, .call op next)) :
    Rule site (historyOf who c.state.trace) op := by
  have hjobs : (serviceSystem fingerprint).Starts ruleDiscipline (·, []) fun _ => True := by
    intro job state state' site program hstart
    obtain ⟨rfl, hrest⟩ := Option.pair_inj hstart
    cases hrest
    exact follows_call
  have hreach := Disciplined.reach hjobs
    (fun _ (h : True) _ _ => h) (.of_nil rfl rfl) trivial h
  exact (congrArg (ruleDiscipline.pre op) (ghostAt_eq_historyOf site who)).mp
    (hreach.1.follows hthread).1

/-- **Invariants of runs.** What holds at some point of a run, and is kept by every operation that
keeps to the rule, holds from there on. -/
theorem invariant_reach (Inv : World → List (serviceSystem fingerprint).Performed → Prop)
    {c₁ : (serviceSystem fingerprint).traced.Config}
    (h₁ : Reach good (serviceStart fingerprint w₀) c₁) (hfirst : Inv c₁.state.state c₁.state.trace)
    (hstep : ∀ {c : (serviceSystem fingerprint).traced.Config} {who : ℕ} {choice : Choice}
      {site : Call} {op : Op} {next : op.Res → Process service Unit} {w : World} {r : op.Res},
      Reach good (serviceStart fingerprint w₀) c → good c (.run who choice) →
      c.threads[who]? = some (site, .call op next) →
      Rule site (historyOf who c.state.trace) op →
      execOp fingerprint choice c.state.state op = (w, r) →
      Inv c.state.state c.state.trace → Inv w (⟨who, site, op, r⟩ :: c.state.trace))
    (h : Reach good c₁ c) : Inv c.state.state c.state.trace := by
  induction h with
  | refl => exact hfirst
  | @step c c' label hreach hgood hnext ih =>
    cases tracedStep_of_step hnext with
    | start hstart =>
      cases hstart
      exact ih
    | run hthread hexec =>
      have hreach := h₁.trans hreach
      exact hstep hreach hgood hthread (rule_reach hreach hthread) (Option.some.inj hexec) ih
    | kill hthread | abandon hthread hdetached => exact ih
    | @event e state hevent => exact nomatch (e : Empty)

end Runs

end VoxTrader.Connections
