import VoxTrader.Connections.Store
import VoxTrader.Lib.Process

/-!
# The operations of the connection service

The connection service is shared by threads. It holds no lock of its own: a call is a sequence of
transactions on two databases, with the question to the provider in between, and anything else may
happen between two of them. Its operations are listed here as data, with their effects.

Any operation of a database may fail without effect, and what the provider answers is not
restricted. A new UUID is one that was never used.

## Main definitions

* `RepositoryOp`, `SecretOp`, `Op` — the operations, and `service`, their interface.
* `World` — both databases, and the UUIDs that were used.
* `execOp` — the effect of an operation.
-/

namespace VoxTrader.Connections

open Except (seq_eq_ok foldlM_rel foldlM_add stopIf_eq_ok map_eq_ok)

/-! ## Operations -/

/-- The operations of the connection database. -/
inductive RepositoryOp
  | permissions (userId : UserId)
  | putRole (role : Role)
  | grantRole (userId : UserId) (roleId : RoleId)
  | insertConnection (row : BrokerConnection)
  | insertOnboarding (row : BrokerConnection) (accounts : List BrokerAccount)
      (authorizations : List ExecutionAuthorization)
  | updateConnection (row : BrokerConnection)
  | connection (id : ConnectionId)
  | listConnections
  | finalizeConnectionDelete (id : ConnectionId)
  | replaceAccounts (id : ConnectionId) (accounts : List BrokerAccount)
  | accounts (id : ConnectionId)
  | putBinding (binding : BrokerAccountBinding)
  | deleteBinding (id : BindingId)
  | setBindingEnabled (id : BindingId) (enabled : Bool) (nowUnixMs : ℤ)
  | bindings (id : ConnectionId)
  | authorization (id : ConnectionId) (providerAccountId : String)
  | putAuthorization (authorization : ExecutionAuthorization) (expectedRevision : ℕ)
  | invalidateConnectionAuthorizations (id : ConnectionId) (actor : UserId) (nowUnixMs : ℤ)
  | appendAudit
deriving DecidableEq

/-- What they return when they succeed. -/
def RepositoryOp.Value : RepositoryOp → Type
  | permissions _ => List Permission
  | connection _ => Option BrokerConnection
  | listConnections => List BrokerConnection
  | accounts _ => List BrokerAccount
  | bindings _ => List BrokerAccountBinding
  | authorization _ _ => Option ExecutionAuthorization
  | _ => Unit

/-- The effect of a write. -/
def wrote (result : Except RepositoryError ConnectionsDb) :
    Except RepositoryError (Unit × ConnectionsDb) :=
  result.map fun db => ((), db)

/-- A write succeeds as its statement does. -/
lemma wrote_eq_ok {result : Except RepositoryError ConnectionsDb} {u : Unit} {db : ConnectionsDb} :
    wrote result = .ok (u, db) ↔ result = .ok db := by
  cases result <;> simp [wrote, Except.map]

/-- The effect of an operation on the connection database. -/
def RepositoryOp.exec (db : ConnectionsDb) :
    (op : RepositoryOp) → Except RepositoryError (op.Value × ConnectionsDb)
  | permissions userId => .ok (db.permissions userId, db)
  | putRole role => wrote (db.putRole role)
  | grantRole userId roleId => wrote (db.grantRole userId roleId)
  | insertConnection row => wrote (db.insertConnection row)
  | insertOnboarding row newAccounts newAuthorizations =>
    wrote (db.insertOnboarding row newAccounts newAuthorizations)
  | updateConnection row => wrote (db.updateConnection row)
  | connection id => .ok (db.connection id, db)
  | listConnections => .ok (db.listConnections, db)
  | finalizeConnectionDelete id => wrote (db.finalizeConnectionDelete id)
  | replaceAccounts id current => wrote (db.replaceAccounts id current)
  | accounts id => .ok (db.accountsOf id, db)
  | putBinding binding => wrote (db.putBinding binding)
  | deleteBinding id => wrote (db.deleteBinding id)
  | setBindingEnabled id enabled now => wrote (db.setBindingEnabled id enabled now)
  | bindings id => .ok (db.bindingsOf id, db)
  | authorization id providerAccountId => .ok (db.authorization id providerAccountId, db)
  | putAuthorization changed expected => wrote (db.putAuthorization changed expected)
  | invalidateConnectionAuthorizations id actor now =>
    wrote (db.invalidateConnectionAuthorizations id actor now)
  | appendAudit => .ok ((), db)

/-- The effect of an operation with the audit rows it appends. -/
def RepositoryOp.execAudited (db : ConnectionsDb) (op : RepositoryOp) (audits : List AuditRecord) :
    Except RepositoryError (op.Value × ConnectionsDb) := do
  let (a, db') ← op.exec db
  let db'' ← db'.appendAudits audits
  return (a, db'')

variable {db db' : ConnectionsDb} {op : RepositoryOp} {audits : List AuditRecord}

/-- An operation with its audit rows succeeds when it does and the rows can be appended. -/
lemma RepositoryOp.execAudited_eq_ok {a : op.Value} : op.execAudited db audits = .ok (a, db') ↔
      ∃ db₁, op.exec db = .ok (a, db₁) ∧ db₁.appendAudits audits = .ok db' := by
  simp only [RepositoryOp.execAudited, seq_eq_ok]
  constructor
  · rintro ⟨⟨b, db₁⟩, hop, db₂, haudits, heq⟩
    cases heq
    exact ⟨db₁, hop, haudits⟩
  · rintro ⟨db₁, hop, haudits⟩
    exact ⟨(a, db₁), hop, db', haudits, rfl⟩

/-- The operations of the credential store. -/
inductive SecretOp
  | put (ref : CredentialRef) (context : CredentialContext) (secret : SecretBytes)
  | get (ref : CredentialRef) (context : CredentialContext)
  | replace (ref : CredentialRef) (context : CredentialContext) (secret : SecretBytes)
  | disable (ref : CredentialRef)
  | delete (ref : CredentialRef)
  | metadata
deriving DecidableEq

/-- What they return when they succeed. -/
def SecretOp.Value : SecretOp → Type
  | put _ _ _ | replace _ _ _ => String
  | get _ _ => SecretBytes
  | metadata => List SecretMetadata
  | disable _ | delete _ => Unit

/-- The effect of an operation on the credential store. `fingerprint` is the digest by which
credentials are recognised. -/
def SecretOp.exec (fingerprint : SecretBytes → String) (db : SecretDb) :
    (op : SecretOp) → Except SecretStoreError (op.Value × SecretDb)
  | put ref context secret =>
    (db.put ref context secret (fingerprint secret)).map fun db => (fingerprint secret, db)
  | get ref context => (db.get ref context).map fun secret => (secret, db)
  | replace ref context secret =>
    (db.replace ref context secret (fingerprint secret)).map fun db => (fingerprint secret, db)
  | disable ref => (db.disable ref).map fun db => ((), db)
  | delete ref => .ok ((), db.delete ref)
  | metadata => .ok (db.metadata, db)

/-! ## Answers of the service -/

structure ReadAccessGrant where
  target : AccountTarget
  credentialRef : CredentialRef
  capabilities : List ConnectionCapability
deriving DecidableEq

structure ExecutionAccessGrant where
  target : AccountTarget
  credentialRef : CredentialRef
  capabilities : List ConnectionCapability
  mode : ExecutionAuthorizationMode
  authorizationRevision : ℕ
deriving DecidableEq

/-- A client that was built for execution: what it is good for. -/
structure ExecutionClient where
  target : AccountTarget
  authorizationRevision : ℕ
deriving DecidableEq

structure LifecycleRecoveryReport where
  onboardingFinalized : ℕ
  onboardingDisabled : ℕ
  deletesFinalized : ℕ
  disablesFinalized : ℕ
  orphanSecretsQuarantined : ℕ
deriving DecidableEq

/-- What a call returns when it succeeds. -/
inductive Answer
  | finished
  | connection (row : BrokerConnection)
  | rotated (row : BrokerConnection) (reconnectRequired : Bool)
  | connections (rows : List BrokerConnection)
  | accounts (rows : List BrokerAccount)
  | bindings (rows : List BrokerAccountBinding)
  | binding (row : BrokerAccountBinding)
  | authorization (row : ExecutionAuthorization)
  | recovered (report : LifecycleRecoveryReport)
  | readAccess (grant : ReadAccessGrant)
  | executionAccess (grant : ExecutionAccessGrant)
  | readClient (target : AccountTarget)
  | executionClient (client : ExecutionClient)
deriving DecidableEq

/-! ## The interface -/

/-- The operations of the service. A write of the connection database appends audit rows in the
same transaction. The last operation of a call is its reply. -/
inductive Op
  | repository (op : RepositoryOp) (audits : List AuditRecord)
  | secret (op : SecretOp)
  | validateAndDiscover (provider : ProviderId) (environment : BrokerEnvironment)
      (credential : SecretBytes)
  | newUuid
  | buildClient (target : AccountTarget) (credential : SecretBytes)
  | reply (answer : Except ServiceError Answer)
deriving DecidableEq

/-- Their results. -/
def Op.Res : Op → Type
  | repository op _ => Except RepositoryError op.Value
  | secret op => Except SecretStoreError op.Value
  | validateAndDiscover _ _ _ => Except ProviderError ProviderDiscovery
  | newUuid => ℕ
  | buildClient _ _ => Except ProviderError Unit
  | reply _ => Unit

/-- The interface of these operations. -/
def service : Interface := ⟨Op, Op.Res⟩

/-! ## Effects -/

/-- Both databases, and the first UUID that was not used. -/
structure World where
  db : ConnectionsDb
  secrets : SecretDb
  nextUuid : ℕ
deriving DecidableEq

/-- What the outside decides while an operation is performed. -/
structure Choice where
  /-- The operation of a database fails without effect. -/
  fault : Bool
  /-- What the provider says. -/
  discovery : Except ProviderError ProviderDiscovery
  /-- Whether a client can be built. -/
  built : Except ProviderError Unit

/-- A transaction on the connection database. -/
def onDb {α : Type} (fault : Bool) (w : World)
    (op : ConnectionsDb → Except RepositoryError (α × ConnectionsDb)) :
    World × Except RepositoryError α :=
  if fault then (w, .error .persistence)
  else
    match op w.db with
    | .ok (a, db) => ({ w with db := db }, .ok a)
    | .error e => (w, .error e)

/-- A transaction on the credential store. -/
def onSecrets {α : Type} (fault : Bool) (w : World)
    (op : SecretDb → Except SecretStoreError (α × SecretDb)) : World × Except SecretStoreError α :=
  if fault then (w, .error .persistence)
  else
    match op w.secrets with
    | .ok (a, secrets) => ({ w with secrets := secrets }, .ok a)
    | .error e => (w, .error e)

/-- **The effect of an operation.** -/
def execOp (fingerprint : SecretBytes → String) (choice : Choice) (w : World) :
    (op : Op) → World × op.Res
  | .repository op audits => onDb choice.fault w fun db => op.execAudited db audits
  | .secret op => onSecrets choice.fault w fun db => op.exec fingerprint db
  | .validateAndDiscover _ _ _ => (w, choice.discovery)
  | .newUuid => ({ w with nextUuid := w.nextUuid + 1 }, w.nextUuid)
  | .buildClient _ _ => (w, choice.built)
  | .reply _ => (w, ())

/-! ## What the operations do to connections -/

/-- The row of a connection that the operation writes. -/
def RepositoryOp.writtenRow : RepositoryOp → Option BrokerConnection
  | updateConnection row | insertOnboarding row _ _ => some row
  | _ => none

/-- The operation changes the table of connections. -/
def RepositoryOp.touchesConnections : RepositoryOp → Bool
  | insertConnection _ | insertOnboarding _ _ _ | updateConnection _ | finalizeConnectionDelete _ =>
    true
  | _ => false

/-- What the operations that succeed do to the table of connections. -/
inductive TableChange : RepositoryOp → List BrokerConnection → List BrokerConnection → Prop
  | kept {op : RepositoryOp} {rows : List BrokerConnection}
      (hop : op.touchesConnections = false) : TableChange op rows rows
  | inserted {row : BrokerConnection} {rows : List BrokerConnection}
      (hfresh : ∀ other ∈ rows, other.id ≠ row.id) :
      TableChange (.insertConnection row) rows (rows ++ [row])
  | written {op : RepositoryOp} {row : BrokerConnection} {rows : List BrokerConnection}
      (hop : op.writtenRow = some row) (hfound : ∃ old ∈ rows, old.id = row.id) :
      TableChange op rows
        (Rows.update BrokerConnection.id row.id (ConnectionsDb.overwrite row) rows)
  | deleted {id : ConnectionId} {rows : List BrokerConnection} :
      TableChange (.finalizeConnectionDelete id) rows (rows.filter (·.id ≠ id))

/-- Writing accounts leaves the other tables alone. -/
lemma replaceAccounts_frame {id : ConnectionId}
    {accounts : List BrokerAccount} (h : db.replaceAccounts id accounts = .ok db') :
    db' = { db with accounts := db'.accounts } := by
  have hframe : db' = { db.closeAccounts id with accounts := db'.accounts } := by
    refine foldlM_rel (R := fun a b : ConnectionsDb => b = { a with accounts := b.accounts })
      (fun _ => rfl) (fun a b c h₁ h₂ => ?_) (fun db account db' h => ?_) h
    · rw [h₂, h₁]
    · simp only [seq_eq_ok, Except.exists_unit_ok, ConnectionsDb.upsertAccount] at h
      obtain ⟨-, h⟩ := h
      split_ifs at h
      rw [← Except.ok.inj h]
  exact hframe

/-- The update of a row that is there. -/
lemma updateConnection_eq_ok {row : BrokerConnection} :
    db.updateConnection row = .ok db' ↔ (∃ old ∈ db.connections, old.id = row.id) ∧ db' = { db with
        connections := Rows.update BrokerConnection.id row.id (ConnectionsDb.overwrite row)
          db.connections } := by
  unfold ConnectionsDb.updateConnection ConnectionsDb.connection
  rcases hrow : Rows.select BrokerConnection.id row.id db.connections with _ | old
  · have hnone := Rows.select_eq_none.mp hrow
    simp only [reduceCtorEq, false_iff, not_and]
    rintro ⟨old, hold, hid⟩
    exact absurd hid (hnone old hold)
  · obtain ⟨hold, hid⟩ := Rows.mem_of_select hrow
    simp only [Except.ok.injEq]
    exact ⟨fun h => ⟨⟨old, hold, hid⟩, h.symm⟩, fun h => h.2.symm⟩

/-- The onboarding of a connection writes its row, and appends accounts and authorizations of it. -/
lemma insertOnboarding_eq_ok {row : BrokerConnection}
    {accounts : List BrokerAccount} {authorizations : List ExecutionAuthorization}
    (h : db.insertOnboarding row accounts authorizations = .ok db') :
    (∃ old ∈ db.connections, old.id = row.id) ∧ db' = { db with
        connections := Rows.update BrokerConnection.id row.id (ConnectionsDb.overwrite row)
          db.connections
        accounts := db.accounts ++ accounts
        authorizations := db.authorizations ++ authorizations } ∧
      (∀ account ∈ accounts, account.connectionId = row.id) ∧
      (∀ authorization ∈ authorizations, authorization.connectionId = row.id) ∧
      (Rows.Unique ExecutionAuthorization.key db.authorizations →
        Rows.Unique ExecutionAuthorization.key (db.authorizations ++ authorizations)) := by
  simp only [ConnectionsDb.insertOnboarding, seq_eq_ok] at h
  obtain ⟨db₁, hrow, db₂, haccounts, hauthorizations⟩ := h
  obtain ⟨hfound, rfl⟩ := updateConnection_eq_ok.mp hrow
  obtain ⟨rfl, hids⟩ := foldlM_add
    (A := fun db new => { db with accounts := db.accounts ++ new }) (fun _ => by simp)
    (fun _ _ _ => by simp) (fun db account db' h => by
      simp only [seq_eq_ok, stopIf_eq_ok, not_not, ConnectionsDb.insertAccount] at h
      obtain ⟨-, hid, h⟩ := h
      split_ifs at h
      exact ⟨(Except.ok.inj h).symm, hid⟩) haccounts
  have hone := foldlM_rel (R := fun a b : ConnectionsDb =>
      Rows.Unique ExecutionAuthorization.key a.authorizations →
        Rows.Unique ExecutionAuthorization.key b.authorizations) (fun _ h => h)
    (fun _ _ _ h₁ h₂ h => h₂ (h₁ h)) (fun db authorization db' h hone => by
      simp only [seq_eq_ok, ConnectionsDb.insertAuthorization] at h
      obtain ⟨-, -, h⟩ := h
      split_ifs at h with hfresh
      rw [← Except.ok.inj h]
      exact hone.append (Option.not_isSome_iff_eq_none.mp (not_or.mp hfresh).2)) hauthorizations
  obtain ⟨rfl, hids'⟩ := foldlM_add
    (A := fun db new => { db with authorizations := db.authorizations ++ new })
    (fun _ => by simp) (fun _ _ _ => by simp) (fun db authorization db' h => by
      simp only [seq_eq_ok, stopIf_eq_ok, not_not, ConnectionsDb.insertAuthorization] at h
      obtain ⟨-, hid, h⟩ := h
      split_ifs at h
      exact ⟨(Except.ok.inj h).symm, hid⟩) hauthorizations
  exact ⟨hfound, rfl, hids, hids', hone⟩

/-- The tables of the connection database. -/
inductive Table
  | roles
  | connections
  | accounts
  | bindings
  | authorizations
deriving DecidableEq

/-- The tables an operation writes. -/
def RepositoryOp.tables : RepositoryOp → List Table
  | putRole _ | grantRole _ _ => [.roles]
  | insertConnection _ | updateConnection _ => [.connections]
  | insertOnboarding _ _ _ => [.connections, .accounts, .authorizations]
  | finalizeConnectionDelete _ => [.connections, .accounts, .bindings, .authorizations]
  | replaceAccounts _ _ => [.accounts]
  | putBinding _ | deleteBinding _ | setBindingEnabled _ _ _ => [.bindings]
  | putAuthorization _ _ | invalidateConnectionAuthorizations _ _ _ => [.authorizations]
  | _ => []

/-- The other tables are as they were. -/
structure Frame (tables : List Table) (db db' : ConnectionsDb) : Prop where
  users : db'.users = db.users
  roles : .roles ∈ tables ∨ db'.roles = db.roles ∧ db'.userRoles = db.userRoles
  connections : .connections ∈ tables ∨ db'.connections = db.connections
  accounts : .accounts ∈ tables ∨ db'.accounts = db.accounts
  bindings : .bindings ∈ tables ∨ db'.bindings = db.bindings
  authorizations : .authorizations ∈ tables ∨ db'.authorizations = db.authorizations
  audits : db'.audits = db.audits

/-- **An operation that succeeds writes its tables only.** -/
lemma RepositoryOp.exec_frame {a : op.Value}
    (h : op.exec db = .ok (a, db')) : Frame op.tables db db' := by
  have hsame {result : Except RepositoryError ConnectionsDb} {u : Unit}
      (h : wrote result = .ok (u, db')) : result = .ok db' := wrote_eq_ok.mp h
  cases op with
  | insertOnboarding =>
    obtain ⟨-, rfl, -⟩ := insertOnboarding_eq_ok (hsame h)
    constructor <;> simp [RepositoryOp.tables]
  | replaceAccounts =>
    rw [replaceAccounts_frame (hsame h)]
    constructor <;> simp [RepositoryOp.tables]
  | updateConnection =>
    obtain ⟨-, rfl⟩ := updateConnection_eq_ok.mp (hsame h)
    constructor <;> simp [RepositoryOp.tables]
  | permissions _ | connection _ | listConnections | accounts _ | bindings _ | authorization _ _
  | appendAudit =>
    rw [← (Except.pair_inj h).2]
    constructor <;> simp
  | _ =>
    have h := hsame h
    simp only [ConnectionsDb.putRole, ConnectionsDb.grantRole, ConnectionsDb.insertConnection,
      ConnectionsDb.finalizeConnectionDelete, ConnectionsDb.putBinding, ConnectionsDb.deleteBinding,
      ConnectionsDb.setBindingEnabled, ConnectionsDb.putAuthorization,
      ConnectionsDb.invalidateConnectionAuthorizations] at h
    -- every branch fails, or writes what it is listed with
    repeat' split at h
    all_goals first
      | (cases h; done)
      | (rw [← Except.ok.inj h]; constructor <;> simp [RepositoryOp.tables])

/-- **What an operation that succeeds does to the table of connections.** -/
lemma RepositoryOp.exec_connections {a : op.Value}
    (h : op.exec db = .ok (a, db')) : TableChange op db.connections db'.connections := by
  have hframe := (RepositoryOp.exec_frame h).connections
  cases op with
  | insertConnection =>
    replace h := wrote_eq_ok.mp h
    unfold ConnectionsDb.insertConnection at h
    split_ifs at h with hany
    rw [← Except.ok.inj h]
    refine .inserted fun other hother hid => hany ?_
    exact List.any_eq_true.mpr ⟨other, hother, by simp [hid]⟩
  | insertOnboarding =>
    obtain ⟨hfound, rfl, -⟩ := insertOnboarding_eq_ok (wrote_eq_ok.mp h)
    exact .written rfl hfound
  | updateConnection =>
    obtain ⟨hfound, rfl⟩ := updateConnection_eq_ok.mp (wrote_eq_ok.mp h)
    exact .written rfl hfound
  | finalizeConnectionDelete =>
    replace h := wrote_eq_ok.mp h
    unfold ConnectionsDb.finalizeConnectionDelete at h
    split at h
    · cases h
    · rw [← Except.ok.inj h]
      exact .deleted
  | _ =>
    rw [hframe.resolve_left (by simp [RepositoryOp.tables])]
    exact .kept rfl

/-- What never changes in the row of a connection. -/
def BrokerConnection.fixed (row : BrokerConnection) :
    CredentialRef × ProviderId × BrokerEnvironment :=
  (row.credentialRef, row.provider, row.environment)

variable {rows rows' : List BrokerConnection}

/-- A row is the one that was there, with the same credential, or is inserted. -/
lemma TableChange.row
    (h : TableChange op rows rows') {row : BrokerConnection} (hrow : row ∈ rows') :
    (∃ old ∈ rows, old.id = row.id ∧ old.fixed = row.fixed) ∨ op = .insertConnection row := by
  cases h with
  | kept => exact .inl ⟨row, hrow, rfl, rfl⟩
  | inserted =>
    rcases List.mem_append.mp hrow with hold | hnew
    · exact .inl ⟨row, hold, rfl, rfl⟩
    · exact .inr (by rw [List.mem_singleton.mp hnew])
  | written =>
    obtain ⟨old, hold, rfl⟩ := Rows.mem_update.mp hrow
    refine .inl ⟨old, hold, ?_⟩
    split_ifs <;> exact ⟨rfl, rfl⟩
  | deleted => exact .inl ⟨row, List.mem_of_mem_filter hrow, rfl, rfl⟩

/-- A connection that was deleted has no row. -/
lemma TableChange.no_row {id : ConnectionId}
    (h : TableChange (.finalizeConnectionDelete id) rows rows') : ∀ row ∈ rows', row.id ≠ id := by
  cases h with
  | kept hop | written hop => cases hop
  | deleted => exact fun row hrow => of_decide_eq_true (List.mem_filter.mp hrow).2

/-- A row is written over one that is there. -/
lemma TableChange.found {row : BrokerConnection} (h : TableChange op rows rows')
    (hop : op.writtenRow = some row) : ∃ old ∈ rows, old.id = row.id := by
  cases h with
  | kept htouches => cases op <;> first | (cases hop; done) | cases htouches
  | written hrow hfound => exact Option.some.inj (hrow.symm.trans hop) ▸ hfound
  | inserted | deleted => cases hop

/-- Audit rows are all that an append adds. -/
lemma appendAudits_eq_ok
    (h : db.appendAudits audits = .ok db') : db' = { db with audits := db.audits ++ audits } := by
  unfold ConnectionsDb.appendAudits at h
  split_ifs at h
  exact (Except.ok.inj h).symm

/-- The same with the audit rows it appends. -/
lemma RepositoryOp.execAudited_connections {a : op.Value}
    (h : op.execAudited db audits = .ok (a, db')) :
    TableChange op db.connections db'.connections := by
  obtain ⟨db₁, hop, haudits⟩ := RepositoryOp.execAudited_eq_ok.mp h
  have hchange := RepositoryOp.exec_connections hop
  rw [appendAudits_eq_ok haudits]
  exact hchange

/-! ## What the operations do to credentials -/

/-- A credential is one that was there, and if that was disabled it is, or it is stored. -/
lemma SecretOp.exec_credentials {fingerprint : SecretBytes → String} {db db' : SecretDb}
    {op : SecretOp} {a : op.Value} (h : op.exec fingerprint db = .ok (a, db'))
    {row : EncryptedCredential} (hrow : row ∈ db'.credentials) :
    (∃ old ∈ db.credentials, old.credentialRef = row.credentialRef ∧
      (old.disabled = true → row.disabled = true)) ∨
      ∃ context secret, op = .put row.credentialRef context secret := by
  cases op with
  | put ref context secret =>
    obtain ⟨db₁, hput, heq⟩ := map_eq_ok.mp h
    cases heq
    unfold SecretDb.put at hput
    split at hput
    · cases hput
    · rw [← Except.ok.inj hput] at hrow
      rcases List.mem_append.mp hrow with hold | hnew
      · exact .inl ⟨row, hold, rfl, fun h => h⟩
      · rw [List.mem_singleton.mp hnew]
        exact .inr ⟨context, secret, rfl⟩
  | get =>
    obtain ⟨secret, hget, heq⟩ := map_eq_ok.mp h
    cases heq
    exact .inl ⟨row, hrow, rfl, fun h => h⟩
  | replace =>
    obtain ⟨db₁, hreplace, heq⟩ := map_eq_ok.mp h
    cases heq
    unfold SecretDb.replace at hreplace
    split at hreplace
    · cases hreplace
    · split_ifs at hreplace
      rw [← Except.ok.inj hreplace] at hrow
      obtain ⟨old, hold, rfl⟩ := Rows.mem_update.mp hrow
      refine .inl ⟨old, hold, ?_⟩
      split_ifs <;> exact ⟨rfl, fun h => h⟩
  | disable =>
    obtain ⟨db₁, hdisable, heq⟩ := map_eq_ok.mp h
    cases heq
    unfold SecretDb.disable at hdisable
    split at hdisable
    · cases hdisable
    · rw [← Except.ok.inj hdisable] at hrow
      obtain ⟨old, hold, rfl⟩ := Rows.mem_update.mp hrow
      refine .inl ⟨old, hold, ?_⟩
      split_ifs
      · exact ⟨rfl, fun _ => rfl⟩
      · exact ⟨rfl, fun h => h⟩
  | delete =>
    cases h
    exact .inl ⟨row, List.mem_of_mem_filter hrow, rfl, fun h => h⟩
  | metadata =>
    cases h
    exact .inl ⟨row, hrow, rfl, fun h => h⟩

/-- Disabling a credential finds it, and leaves it disabled. -/
lemma disable_credentials {db db' : SecretDb} {ref : CredentialRef}
    (h : db.disable ref = .ok db') : (∃ row ∈ db.credentials, row.credentialRef = ref) ∧
      ∀ row ∈ db'.credentials, row.credentialRef = ref → row.disabled = true := by
  unfold SecretDb.disable at h
  split at h
  · cases h
  · rename_i row hrow
    refine ⟨⟨row, Rows.mem_of_select hrow⟩, ?_⟩
    rw [← Except.ok.inj h]
    intro row' hrow' href
    obtain ⟨old, hold, rfl⟩ := Rows.mem_update.mp hrow'
    split_ifs at href ⊢ with heq
    · rfl
    · exact absurd href heq

/-- What is read is a credential that is not disabled. -/
lemma get_eq_ok {db : SecretDb} {ref : CredentialRef} {context : CredentialContext}
    {secret : SecretBytes} (h : db.get ref context = .ok secret) :
    ∃ row ∈ db.credentials, row.credentialRef = ref ∧ row.disabled = false ∧
      row.context = context ∧ row.secret = secret := by
  unfold SecretDb.get at h
  split at h
  · cases h
  · rename_i row hrow
    obtain ⟨hmem, href⟩ := Rows.mem_of_select hrow
    split_ifs at h with hdisabled hcontext
    exact ⟨row, hmem, href, Bool.not_eq_true _ ▸ hdisabled, not_not.mp hcontext, Except.ok.inj h⟩

/-! ## Transactions -/

/-- A transaction on the connection database fails without effect, or is performed. -/
lemma onDb_cases {α : Type} {fault : Bool} {w w' : World}
    {op : ConnectionsDb → Except RepositoryError (α × ConnectionsDb)} {r : Except RepositoryError α}
    (h : onDb fault w op = (w', r)) :
    (w' = w ∧ ∃ e, r = .error e) ∨
      ∃ a db, op w.db = .ok (a, db) ∧ w' = { w with db := db } ∧ r = .ok a := by
  unfold onDb at h
  split_ifs at h
  · cases h
    exact .inl ⟨rfl, _, rfl⟩
  · split at h <;> obtain ⟨rfl, rfl⟩ := Prod.mk.inj h
    · rename_i a db hop
      exact .inr ⟨a, db, hop, rfl, rfl⟩
    · exact .inl ⟨rfl, _, rfl⟩

/-- A transaction on the credential store fails without effect, or is performed. -/
lemma onSecrets_cases {α : Type} {fault : Bool} {w w' : World}
    {op : SecretDb → Except SecretStoreError (α × SecretDb)} {r : Except SecretStoreError α}
    (h : onSecrets fault w op = (w', r)) :
    (w' = w ∧ ∃ e, r = .error e) ∨
      ∃ a secrets, op w.secrets = .ok (a, secrets) ∧ w' = { w with secrets := secrets } ∧
        r = .ok a := by
  unfold onSecrets at h
  split_ifs at h
  · cases h
    exact .inl ⟨rfl, _, rfl⟩
  · split at h <;> obtain ⟨rfl, rfl⟩ := Prod.mk.inj h
    · rename_i a secrets hop
      exact .inr ⟨a, secrets, hop, rfl, rfl⟩
    · exact .inl ⟨rfl, _, rfl⟩

section

variable {fingerprint : SecretBytes → String} {choice : Choice} {w w' : World}

/-- The same for an operation of the connection database. -/
lemma execOp_repository
    {r : Except RepositoryError op.Value}
    (h : execOp fingerprint choice w (.repository op audits) = (w', r)) :
    (w' = w ∧ ∃ e, r = .error e) ∨
      ∃ a db, op.execAudited w.db audits = .ok (a, db) ∧ w' = { w with db := db } ∧ r = .ok a := by
  have honDb : onDb choice.fault w (fun db => op.execAudited db audits) = (w', r) := h
  exact onDb_cases honDb

/-- The same for an operation of the credential store. -/
lemma execOp_secret {op : SecretOp} {r : Except SecretStoreError op.Value}
    (h : execOp fingerprint choice w (.secret op) = (w', r)) :
    (w' = w ∧ ∃ e, r = .error e) ∨ ∃ a secrets, op.exec fingerprint w.secrets = .ok (a, secrets) ∧
        w' = { w with secrets := secrets } ∧ r = .ok a := by
  have honSecrets : onSecrets choice.fault w (fun db => op.exec fingerprint db) = (w', r) := h
  exact onSecrets_cases honSecrets

/-- Only an operation of the connection database that succeeds changes it. -/
lemma execOp_db {op : Op} {r : op.Res} (h : execOp fingerprint choice w op = (w', r)) :
    w'.db = w.db ∨ ∃ rop audits a, op = .repository rop audits ∧
      rop.execAudited w.db audits = .ok (a, w'.db) := by
  rcases op with ⟨op, audits⟩ | op | _ | _ | _ | _
  · rcases execOp_repository h with ⟨rfl, -⟩ | ⟨a, db, hop, rfl, -⟩
    · exact .inl rfl
    · exact .inr ⟨op, audits, a, rfl, hop⟩
  · rcases execOp_secret h with ⟨rfl, -⟩ | ⟨a, secrets, -, rfl, -⟩ <;> exact .inl rfl
  all_goals exact .inl (by rw [← (Prod.mk.inj h).1])

end

end VoxTrader.Connections
