import VoxTrader.Connections.Model
import VoxTrader.Lib.Rows

/-!
# The connection database and the credential store

Two SQLite databases. Each function here is one transaction of the source: it has its whole
effect, or it fails and has none. A statement that breaks a key or a foreign key fails. A stored
credential is kept with its plaintext, so what encryption and decryption do is left out.

## Main definitions

* `ConnectionsDb` — users, roles, connections, accounts, bindings and execution authorizations.
* `SecretDb` — the encrypted credentials.
* `ConnectionsDb.updateConnection`, `ConnectionsDb.insertOnboarding`,
  `ConnectionsDb.replaceAccounts`, `ConnectionsDb.putBinding`, `ConnectionsDb.putAuthorization`,
  `ConnectionsDb.finalizeConnectionDelete`, … — the writes of the connection database.
* `SecretDb.put`, `SecretDb.get`, `SecretDb.replace`, `SecretDb.disable`, `SecretDb.delete` — the
  operations of the credential store.
-/

namespace VoxTrader.Connections

/-! ## The connection database -/

/-- The tables of the connection database. -/
structure ConnectionsDb where
  users : List User
  roles : List Role
  userRoles : List (UserId × RoleId)
  connections : List BrokerConnection
  accounts : List BrokerAccount
  bindings : List BrokerAccountBinding
  authorizations : List ExecutionAuthorization
  audits : List AuditRecord
deriving DecidableEq

/-- The key of an account. -/
def BrokerAccount.key (account : BrokerAccount) : ConnectionId × String :=
  (account.connectionId, account.providerAccountId)

/-- The account of a binding. -/
def BrokerAccountBinding.accountKey (binding : BrokerAccountBinding) : ConnectionId × String :=
  (binding.connectionId, binding.providerAccountId)

/-- The key of an authorization. -/
def ExecutionAuthorization.key (authorization : ExecutionAuthorization) : ConnectionId × String :=
  (authorization.connectionId, authorization.providerAccountId)

/-- The largest number a column holds. -/
def maxInteger : ℕ := 2 ^ 63 - 1

namespace ConnectionsDb

variable (db : ConnectionsDb)

/-! ### Users and roles -/

/-- What the roles of a user permit, if the user is enabled. -/
def permissions (userId : UserId) : List Permission :=
  match Rows.select User.id userId db.users with
  | some user =>
    if user.enabled then
      (db.userRoles.filter (·.1 = userId)).flatMap fun grant =>
        (Rows.select Role.id grant.2 db.roles).elim [] Role.permissions
    else []
  | none => []

/-- Write a role; its name belongs to it alone. -/
def putRole (role : Role) : Except RepositoryError ConnectionsDb :=
  if db.roles.any fun other => other.name = role.name && other.id ≠ role.id then
    .error .persistence
  else .ok { db with roles := Rows.upsert Role.id role (fun _ => role) db.roles }

/-- Give a role to a user. -/
def grantRole (userId : UserId) (roleId : RoleId) : Except RepositoryError ConnectionsDb :=
  if (Rows.select User.id userId db.users).isNone ∨
      (Rows.select Role.id roleId db.roles).isNone then
    .error .persistence
  else if (userId, roleId) ∈ db.userRoles then .ok db
  else .ok { db with userRoles := db.userRoles ++ [(userId, roleId)] }

/-- Append audit rows, by actors that are users. -/
def appendAudits (records : List AuditRecord) : Except RepositoryError ConnectionsDb :=
  if records.all fun record => (Rows.select User.id record.actor db.users).isSome then
    .ok { db with audits := db.audits ++ records }
  else .error .persistence

/-! ### Connections -/

/-- The row of a connection. -/
def connection (id : ConnectionId) : Option BrokerConnection :=
  Rows.select BrokerConnection.id id db.connections

/-- All rows, in the order of their creation. -/
def listConnections : List BrokerConnection :=
  db.connections.insertionSort fun a b => a.createdAtUnixMs ≤ b.createdAtUnixMs

/-- A new connection, with an identity and a credential of its own. -/
def insertConnection (row : BrokerConnection) : Except RepositoryError ConnectionsDb :=
  if db.connections.any fun other =>
      other.id = row.id || other.credentialRef = row.credentialRef then
    .error .persistence
  else .ok { db with connections := db.connections ++ [row] }

/-- What an update writes over a row: all of it but the identity, the provider, the environment,
the credential and the time of creation. -/
def overwrite (row old : BrokerConnection) : BrokerConnection :=
  { old with
    label := row.label
    credentialFingerprint := row.credentialFingerprint
    enabled := row.enabled
    credentialStatus := row.credentialStatus
    credentialClass := row.credentialClass
    credentialScope := row.credentialScope
    health := row.health
    capabilities := row.capabilities
    updatedAtUnixMs := row.updatedAtUnixMs }

/-- Write a row over the one of the same connection, whatever that is by now. -/
def updateConnection (row : BrokerConnection) : Except RepositoryError ConnectionsDb :=
  match db.connection row.id with
  | none => .error .notFound
  | some _ => .ok { db with
      connections := Rows.update BrokerConnection.id row.id (overwrite row) db.connections }

/-- A new account of a connection that exists. -/
def insertAccount (account : BrokerAccount) : Except RepositoryError ConnectionsDb :=
  if (db.connection account.connectionId).isNone ∨
      (Rows.select BrokerAccount.key account.key db.accounts).isSome then .error .persistence
  else .ok { db with accounts := db.accounts ++ [account] }

/-- A new authorization of an account that exists. -/
def insertAuthorization (authorization : ExecutionAuthorization) :
    Except RepositoryError ConnectionsDb :=
  if (Rows.select BrokerAccount.key authorization.key db.accounts).isNone ∨
      (Rows.select ExecutionAuthorization.key authorization.key db.authorizations).isSome then
    .error .persistence
  else .ok { db with authorizations := db.authorizations ++ [authorization] }

/-- Finish the onboarding of a connection: its row, its accounts and their authorizations. -/
def insertOnboarding (row : BrokerConnection) (accounts : List BrokerAccount)
    (authorizations : List ExecutionAuthorization) : Except RepositoryError ConnectionsDb := do
  let db ← db.updateConnection row
  let db ← accounts.foldlM (fun db account => do
    Except.stopIf (account.connectionId ≠ row.id) .identityMismatch
    db.insertAccount account) db
  authorizations.foldlM (fun db authorization => do
    Except.stopIf (authorization.connectionId ≠ row.id) .identityMismatch
    db.insertAuthorization authorization) db

/-- Delete a connection with all that refers to it. -/
def finalizeConnectionDelete (id : ConnectionId) : Except RepositoryError ConnectionsDb :=
  match db.connection id with
  | none => .error .notFound
  | some _ => .ok { db with
      connections := db.connections.filter (·.id ≠ id)
      accounts := db.accounts.filter (·.connectionId ≠ id)
      bindings := db.bindings.filter (·.connectionId ≠ id)
      authorizations := db.authorizations.filter (·.connectionId ≠ id) }

/-! ### Accounts -/

/-- The accounts of a connection. -/
def accountsOf (id : ConnectionId) : List BrokerAccount :=
  (db.accounts.filter (·.connectionId = id)).insertionSort
    fun a b => a.providerAccountId ≤ b.providerAccountId

/-- Write an account over the one there is, or as a new one. -/
def upsertAccount (account : BrokerAccount) : Except RepositoryError ConnectionsDb :=
  if (db.connection account.connectionId).isNone then .error .persistence
  else .ok { db with
    accounts := Rows.upsert BrokerAccount.key account (fun _ => account) db.accounts }

/-- Take the access to all accounts of a connection. -/
def closeAccounts (id : ConnectionId) : ConnectionsDb :=
  { db with
    accounts := Rows.update BrokerAccount.connectionId id
      (fun account => { account with accessible := false }) db.accounts }

/-- The accounts that are accessible now; the others stay, without access. -/
def replaceAccounts (id : ConnectionId) (accounts : List BrokerAccount) :
    Except RepositoryError ConnectionsDb :=
  accounts.foldlM (fun db account => do
    Except.stopIf (account.connectionId ≠ id) .identityMismatch
    db.upsertAccount account) (db.closeAccounts id)

/-! ### Bindings -/

/-- The bindings of a connection, in the order of their creation. -/
def bindingsOf (id : ConnectionId) : List BrokerAccountBinding :=
  (db.bindings.filter (·.connectionId = id)).insertionSort
    fun a b => a.createdAtUnixMs ≤ b.createdAtUnixMs

/-- A new binding: an account has at most one, and so has a Vox account. -/
def putBinding (binding : BrokerAccountBinding) : Except RepositoryError ConnectionsDb :=
  if (Rows.select BrokerAccount.key binding.accountKey db.accounts).isNone ∨
      (db.bindings.any fun other => other.id = binding.id ||
        other.voxAccountId = binding.voxAccountId || other.accountKey = binding.accountKey) then
    .error .persistence
  else .ok { db with bindings := db.bindings ++ [binding] }

/-- Delete a binding. -/
def deleteBinding (id : BindingId) : Except RepositoryError ConnectionsDb :=
  match Rows.select BrokerAccountBinding.id id db.bindings with
  | none => .error .notFound
  | some _ => .ok { db with bindings := db.bindings.filter (·.id ≠ id) }

/-- Switch a binding on or off. -/
def setBindingEnabled (id : BindingId) (enabled : Bool) (nowUnixMs : ℤ) :
    Except RepositoryError ConnectionsDb :=
  match Rows.select BrokerAccountBinding.id id db.bindings with
  | none => .error .notFound
  | some _ => .ok { db with
      bindings := Rows.update BrokerAccountBinding.id id
        (fun binding => { binding with enabled := enabled, updatedAtUnixMs := nowUnixMs })
        db.bindings }

/-! ### Execution authorizations -/

/-- The authorization of an account. -/
def authorization (id : ConnectionId) (providerAccountId : String) :
    Option ExecutionAuthorization :=
  Rows.select ExecutionAuthorization.key (id, providerAccountId) db.authorizations

/-- Write an authorization over the one with the expected revision. -/
def putAuthorization (authorization : ExecutionAuthorization) (expectedRevision : ℕ) :
    Except RepositoryError ConnectionsDb :=
  if maxInteger < authorization.authorizationRevision ∨ maxInteger < expectedRevision then
    .error .persistence
  else
    match Rows.select ExecutionAuthorization.key authorization.key db.authorizations with
    | none => .error .staleAuthorizationRevision
    | some old =>
      if old.authorizationRevision = expectedRevision ∧
          authorization.authorizationRevision = expectedRevision + 1 then
        .ok { db with
          authorizations := Rows.update ExecutionAuthorization.key authorization.key
            (fun _ => authorization) db.authorizations }
      else .error .staleAuthorizationRevision

/-- Raise the revision of every authorization of a connection. -/
def invalidateConnectionAuthorizations (id : ConnectionId) (actor : UserId) (nowUnixMs : ℤ) :
    Except RepositoryError ConnectionsDb :=
  if db.authorizations.any fun a => a.connectionId = id && a.authorizationRevision = maxInteger then
    .error .persistence
  else .ok { db with
    authorizations := Rows.update ExecutionAuthorization.connectionId id
      (fun a => { a with
        authorizationRevision := a.authorizationRevision + 1
        changedBy := actor
        changedAtUnixMs := nowUnixMs }) db.authorizations }

end ConnectionsDb

/-! ## The credential store -/

/-- A stored credential. -/
structure EncryptedCredential where
  credentialRef : CredentialRef
  context : CredentialContext
  secret : SecretBytes
  fingerprint : String
  disabled : Bool
deriving DecidableEq

/-- The credential store. -/
structure SecretDb where
  credentials : List EncryptedCredential
deriving DecidableEq

namespace SecretDb

variable (db : SecretDb)

/-- The row of a credential. -/
def credential (ref : CredentialRef) : Option EncryptedCredential :=
  Rows.select EncryptedCredential.credentialRef ref db.credentials

/-- Store a new credential. -/
def put (ref : CredentialRef) (context : CredentialContext) (secret : SecretBytes)
    (fingerprint : String) : Except SecretStoreError SecretDb :=
  match db.credential ref with
  | some _ => .error .alreadyExists
  | none => .ok ⟨db.credentials ++ [⟨ref, context, secret, fingerprint, false⟩]⟩

/-- Read a credential that is not disabled. -/
def get (ref : CredentialRef) (expectedContext : CredentialContext) :
    Except SecretStoreError SecretBytes :=
  match db.credential ref with
  | none => .error .notFound
  | some row =>
    if row.disabled then .error .disabled
    else if row.context ≠ expectedContext then .error .contextMismatch
    else .ok row.secret

/-- The write of a rotation: put another credential in the place of one that is not disabled. -/
def replace (ref : CredentialRef) (expectedContext : CredentialContext) (secret : SecretBytes)
    (fingerprint : String) : Except SecretStoreError SecretDb :=
  match db.credential ref with
  | none => .error .notFoundOrContextMismatch
  | some row =>
    if row.disabled ∨ row.context ≠ expectedContext then .error .notFoundOrContextMismatch
    else .ok ⟨Rows.update EncryptedCredential.credentialRef ref
      (fun row => { row with secret := secret, fingerprint := fingerprint }) db.credentials⟩

/-- Disable a credential. -/
def disable (ref : CredentialRef) : Except SecretStoreError SecretDb :=
  match db.credential ref with
  | none => .error .notFound
  | some _ => .ok ⟨Rows.update EncryptedCredential.credentialRef ref
      (fun row => { row with disabled := true }) db.credentials⟩

/-- Delete a credential, if there is one. -/
def delete (ref : CredentialRef) : SecretDb := ⟨db.credentials.filter (·.credentialRef ≠ ref)⟩

/-- What is known of all credentials without reading them. -/
def metadata : List SecretMetadata :=
  db.credentials.map fun row => ⟨row.credentialRef, row.context, row.fingerprint, row.disabled⟩

end SecretDb

end VoxTrader.Connections
