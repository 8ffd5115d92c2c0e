import VoxTrader.Connections.Interface

/-!
# The connection service

The calls of the connection service as programs over its operations, in the order of the source:
a row is read, changed in memory and written back whole, with whatever lies between. A write with
its audit rows is one operation, an audit row by itself is another. The texts of audit rows are
constants, identities and fingerprints, which always pass the check for secret material.

## Main definitions

* `Service` — programs of the service.
* `createConnection`, `revalidate`, `rotateCredential`, `disableConnection`, `deleteConnection`,
  `recoverConnectionLifecycle` — the life of a connection.
* `bindAccount`, `unbindAccount`, `disableBinding`, `setExecutionAuthorizationCas` — who may trade
  an account.
* `validateReadAccess`, `validateExecutionAccess`, `openRuntimeReadClient`,
  `openRuntimeExecutionClient` — access to the broker.
-/

namespace VoxTrader.Connections

open Except (stopIf orStop)
open Process

/-! ## Programs -/

/-- Programs of the service. -/
abbrev Service (α : Type) : Type := ExceptT ServiceError (Process service) α

/-- An operation of the connection database, with the audit rows it appends. -/
def recorded (op : RepositoryOp) (audits : List AuditRecord) : Service op.Value :=
  orFail .repository (perform (I := service) (.repository op audits))

/-- An operation of the connection database. -/
def repository (op : RepositoryOp) : Service op.Value := recorded op []

variable (security : SecurityContext)

/-- An audit row of the caller. -/
def SecurityContext.audit (action : String) (target : AuditTarget)
    (previousState newState : Option String) : AuditRecord :=
  ⟨security.actor, action, target, previousState, newState, security.nowUnixMs⟩

/-- An operation of the credential store. -/
def secretStore (op : SecretOp) : Service op.Value :=
  orFail .secretStore (perform (I := service) (.secret op))

/-- The same, for a caller that looks at the error. -/
def trySecretStore (op : SecretOp) : Process service (Except SecretStoreError op.Value) :=
  perform (I := service) (.secret op)

/-- Ask the provider about a credential. -/
def validateAndDiscover (provider : ProviderId) (environment : BrokerEnvironment)
    (credential : SecretBytes) : Process service (Except ProviderError ProviderDiscovery) :=
  perform (I := service) (.validateAndDiscover provider environment credential)

/-- A UUID that was never used. -/
def newUuid : Process service ℕ := perform (I := service) .newUuid

/-- A check, or a value that may be missing. -/
def ofExcept {α : Type} (x : Except ServiceError α) : Service α := ExceptT.mk (pure x)

/-- Go on after a failure, with the error at hand. -/
def attempt {α : Type} (x : Service α) : Service (Except ServiceError α) := ExceptT.lift x.run

/-- Whether the caller has one of the permissions. -/
def hasAny : List Permission → Service Bool
  | [] => pure false
  | permission :: others => do
    let granted : List Permission ← repository (.permissions security.actor)
    if permission ∈ granted then pure true else hasAny others

/-- The caller has to have a permission. -/
def require (permission : Permission) : Service Unit := do
  let granted : List Permission ← repository (.permissions security.actor)
  ofExcept (stopIf (permission ∉ granted) (.permissionDenied permission))

/-- The row of a connection that has to exist. -/
def readConnection (id : ConnectionId) : Service BrokerConnection := do
  let row : Option BrokerConnection ← repository (.connection id)
  ofExcept (orStop row .connectionNotFound)

/-! ## Rows -/

/-- A health that was found just now. -/
def healthNow (provider : ProviderId) (environment : BrokerEnvironment)
    (state : ConnectionHealthState) (reasonCode : ConnectionHealthReason)
    (safeDetail : Option String) : ConnectionHealth :=
  ⟨state, some security.nowUnixMs, provider, environment, reasonCode, safeDetail, false⟩

/-- The health after the provider has accepted the credential. -/
def acceptedHealth (row : BrokerConnection) (accessChanged : Bool) : ConnectionHealth :=
  if accessChanged then
    healthNow security row.provider row.environment .accountAccessChanged .accountAccessChanged none
  else healthNow security row.provider row.environment .healthy .none none

/-- The row after the provider has accepted the stored credential again. -/
def revalidated (row : BrokerConnection)
    (discovery : ProviderDiscovery) (accessChanged : Bool) : BrokerConnection :=
  { row with
    capabilities := discovery.connectionCapabilities
    credentialStatus := .valid
    credentialClass := discovery.credentialClass
    credentialScope := discovery.credentialScope
    health := acceptedHealth security row accessChanged
    updatedAtUnixMs := security.nowUnixMs }

/-- The row after the provider has refused the stored credential. -/
def refused (row : BrokerConnection) (error : ProviderError) : BrokerConnection :=
  { row with
    credentialStatus := match error with
      | .expiredOrInactive => .expiredOrInactive
      | .invalidCredential | .wrongEnvironment => .invalid
      | _ => row.credentialStatus
    health := healthFromProviderError error row.provider row.environment security.nowUnixMs
    updatedAtUnixMs := security.nowUnixMs }

/-- The row while its credential is being rotated. -/
def rotationGate (row : BrokerConnection) : BrokerConnection :=
  { row with
    health := healthNow security row.provider row.environment .validating .none
      (some "credential rotation in progress")
    updatedAtUnixMs := security.nowUnixMs }

/-- The row after its credential was rotated. -/
def rotated (row : BrokerConnection) (fingerprint : String)
    (discovery : ProviderDiscovery) (accessChanged : Bool) : BrokerConnection :=
  { row with
    credentialFingerprint := fingerprint
    capabilities := discovery.connectionCapabilities
    credentialStatus := .valid
    credentialClass := discovery.credentialClass
    credentialScope := discovery.credentialScope
    updatedAtUnixMs := security.nowUnixMs
    health := acceptedHealth security row accessChanged }

/-- The row while its credential is being disabled. -/
def disableStarted (row : BrokerConnection) : BrokerConnection :=
  { row with
    enabled := false
    credentialStatus := .pendingDisable
    health := healthNow security row.provider row.environment .disabled .disabledByOperator
      (some "credential disable in progress")
    updatedAtUnixMs := security.nowUnixMs }

/-- The row after its credential was disabled. -/
def disableFinished (row : BrokerConnection) : BrokerConnection :=
  { row with
    credentialStatus := .disabled
    health := healthNow security row.provider row.environment .disabled .disabledByOperator
      (some "disabled by authorized operator")
    updatedAtUnixMs := security.nowUnixMs }

/-- The row while it is being deleted. -/
def tombstone (row : BrokerConnection) : BrokerConnection :=
  { row with
    enabled := false
    credentialStatus := .pendingDelete
    health := healthNow security row.provider row.environment .disabled .disabledByOperator
      (some "delete in progress")
    updatedAtUnixMs := security.nowUnixMs }

/-- The row of a connection without a usable credential. -/
def withoutCredential (row : BrokerConnection) (detail : String) : BrokerConnection :=
  { row with
    enabled := false
    credentialStatus := .invalid
    health := healthNow security row.provider row.environment .invalidCredential .invalidCredential
      (some detail)
    updatedAtUnixMs := security.nowUnixMs }

/-- The authorizations a new connection begins with. -/
def initialAuthorizations (id : ConnectionId)
    (accounts : List BrokerAccount) : List ExecutionAuthorization :=
  accounts.map fun account =>
    ⟨id, account.providerAccountId, .disabled, 1, security.actor, security.nowUnixMs⟩

/-! ## Authorizations that the provider does not back -/

/-- An account may be traded as far as the provider is concerned. -/
def tradable (account : BrokerAccount) : Bool :=
  account.accessible && requiredOrderCapability account.environment ∈ account.capabilities

/-- Some account is authorized for execution and may not be traded any more. -/
def authorizationConflict (id : ConnectionId) : List BrokerAccount → Service Bool
  | [] => pure false
  | account :: others => do
    let authorization : Option ExecutionAuthorization ←
      repository (.authorization id account.providerAccountId)
    let mode := (authorization.map (·.mode)).getD .disabled
    if mode ≠ .disabled ∧ ¬ tradable account then pure true else authorizationConflict id others

/-- The accounts have changed in a way that closes the connection. -/
def accessChanged (id : ConnectionId) (previous current : List BrokerAccount) : Service Bool :=
  if accessRemoved previous current then pure true
  else authorizationConflict id (withDisappearedAccounts previous current)

/-- The revision after another one. -/
def nextRevision (revision : ℕ) : Except ServiceError ℕ :=
  if revision + 1 < 2 ^ 64 then .ok (revision + 1) else .error .authorizationRevisionOverflow

/-- Take the authorization of accounts that may not be traded. -/
def revokeInvalidAuthorizations (row : BrokerConnection) : List BrokerAccount → Service Unit
  | [] => pure ()
  | account :: others => do
    let authorization : Option ExecutionAuthorization ←
      repository (.authorization row.id account.providerAccountId)
    match authorization with
    | none => revokeInvalidAuthorizations row others
    | some previous =>
      if previous.mode = .disabled ∨ tradable account then
        revokeInvalidAuthorizations row others
      else do
        let bindings : List BrokerAccountBinding ← repository (.bindings row.id)
        let target := (bindings.find? (·.providerAccountId = account.providerAccountId)).elim
          (.connection row.id) fun binding => .binding binding.id
        let revision ← ofExcept (nextRevision previous.authorizationRevision)
        let _ ← recorded (.putAuthorization
          ⟨row.id, account.providerAccountId, .disabled, revision, security.actor,
            security.nowUnixMs⟩ previous.authorizationRevision)
          [security.audit "EXECUTION_AUTHORIZATION_REVOKED_PROVIDER_DOWNGRADE" target
            (some (authorizationName previous.mode)) (some "DISABLED")]
        revokeInvalidAuthorizations row others

/-! ## The life of a connection -/

/-- Ask the provider whether the stored credential is still good. -/
def revalidate (id : ConnectionId) : Service BrokerConnection := do
  require security .discoverAccounts
  let row ← readConnection id
  ofExcept (stopIf (row.enabled = false) .connectionDisabled)
  let credential : SecretBytes ← secretStore (.get row.credentialRef (credentialContext row))
  let answer ← validateAndDiscover row.provider row.environment credential
  match answer with
  | .ok discovery => do
    ofExcept (validateDiscovery discovery)
    let accounts := materializeAccounts row discovery.accounts security.nowUnixMs
    let oldAccounts : List BrokerAccount ← repository (.accounts id)
    let changed ← accessChanged id oldAccounts accounts
    let row := revalidated security row discovery changed
    let _ ← repository (.updateConnection row)
    let _ ← repository (.replaceAccounts id accounts)
    let persisted : List BrokerAccount ← repository (.accounts id)
    revokeInvalidAuthorizations security row persisted
    let _ ← repository (.updateConnection row)
    let _ ← recorded .appendAudit [security.audit "CONNECTION_REVALIDATED" (.connection id) none
      (some (healthName row.health.state))]
    return row
  | .error error => do
    let row := refused security row error
    let _ ← repository (.updateConnection row)
    let _ ← recorded .appendAudit [security.audit "CONNECTION_REVALIDATION_FAILED" (.connection id)
      none (some (healthName row.health.state))]
    throw (.provider error)

/-- Put another credential in the place of a stored one. -/
def rotateSecret (ref : CredentialRef) (context : CredentialContext) (secret : SecretBytes) :
    Process service (Except SecretStoreError String) := do
  let current ← trySecretStore (.get ref context)
  match current with
  | .error error => return .error error
  | .ok _ => trySecretStore (.replace ref context secret)

/-- What a rotation writes after the credential was replaced. -/
def persistRotation (previous row : BrokerConnection)
    (accounts : List BrokerAccount) : Service Unit := do
  let _ ← repository (.replaceAccounts row.id accounts)
  let _ ← repository (.updateConnection row)
  let persisted : List BrokerAccount ← repository (.accounts row.id)
  revokeInvalidAuthorizations security row persisted
  recorded .appendAudit [security.audit "CREDENTIAL_ROTATED_RECONNECT_REQUIRED" (.connection row.id)
    (some previous.credentialFingerprint) (some row.credentialFingerprint)]

/-- Go back to the credential, the accounts and the row before a rotation. -/
def compensateRotation (previous : BrokerConnection) (credential : SecretBytes)
    (oldAccounts : List BrokerAccount) : Process service Bool := do
  let secretRestored ← rotateSecret previous.credentialRef (credentialContext previous) credential
  let accountsRestored ← (repository (.replaceAccounts previous.id oldAccounts)).run
  let connectionRestored ← (repository (.updateConnection previous)).run
  return secretRestored.isOk && accountsRestored.isOk && connectionRestored.isOk

/-- Replace the credential of a connection. -/
def rotateCredential (id : ConnectionId) (newCredential : SecretBytes) :
    Service BrokerConnection := do
  require security .manageCredentials
  let previous ← readConnection id
  let answer ← validateAndDiscover previous.provider previous.environment newCredential
  let discovery ← ofExcept (answer.mapError .provider)
  ofExcept (validateDiscovery discovery)
  let credential : SecretBytes ←
    secretStore (.get previous.credentialRef (credentialContext previous))
  let oldAccounts : List BrokerAccount ← repository (.accounts id)
  let accounts := materializeAccounts previous discovery.accounts security.nowUnixMs
  let changed ← accessChanged id oldAccounts accounts
  let _ ← repository (.updateConnection (rotationGate security previous))
  let _ ← recorded (.invalidateConnectionAuthorizations id security.actor security.nowUnixMs)
    [security.audit "CREDENTIAL_ROTATION_SESSIONS_INVALIDATED" (.connection id)
      (some "PREVIOUS_CREDENTIAL") (some "RECONNECT_REQUIRED")]
  let rotation ← rotateSecret previous.credentialRef (credentialContext previous) newCredential
  match rotation with
  | .error error => do
    let _ ← attempt (repository (.updateConnection previous))
    throw (.secretStore error)
  | .ok fingerprint => do
    let row := rotated security previous fingerprint discovery changed
    let persistence ← attempt (persistRotation security previous row accounts)
    match persistence with
    | .ok () => return row
    | .error error => do
      let restored ← compensateRotation previous credential oldAccounts
      if restored then throw error
      else do
        let _ ← trySecretStore (.disable previous.credentialRef)
        throw .credentialRotationCompensationFailed

/-- Close a connection, before its credential is disabled. -/
def startDisable (row : BrokerConnection) : Service BrokerConnection :=
  if row.credentialStatus = .pendingDisable then return row
  else do
    let _ ← recorded (.updateConnection (disableStarted security row))
      [security.audit "CONNECTION_DISABLE_STARTED" (.connection row.id) (some "ENABLED")
        (some "PENDING_DISABLE")]
    return disableStarted security row

/-- Disable a connection and its credential. -/
def disableConnection (id : ConnectionId) : Service BrokerConnection := do
  require security .disableDeleteConnection
  let found ← readConnection id
  let row ← startDisable security found
  let _ ← secretStore (.disable row.credentialRef)
  let _ ← recorded (.updateConnection (disableFinished security row))
    [security.audit "CREDENTIAL_DISABLED" (.credential row.credentialRef) (some "VALID")
      (some "DISABLED"),
     security.audit "CONNECTION_DISABLED" (.connection id) (some "ENABLED") (some "DISABLED")]
  return disableFinished security row

/-- Delete a credential, which may be gone already. -/
def dropSecret (ref : CredentialRef) : Service Unit := do
  let result ← trySecretStore (.delete ref)
  match result with
  | .ok _ | .error .notFound => return ()
  | .error error => throw (.secretStore error)

/-- Delete a connection that was disabled. -/
def deleteConnection (id : ConnectionId) : Service Unit := do
  require security .disableDeleteConnection
  let row ← readConnection id
  ofExcept (stopIf (row.enabled = true ∧ row.credentialStatus ≠ .pendingDelete)
    .disableBeforeDelete)
  let _ ← recorded (.updateConnection (tombstone security row))
    [security.audit "CONNECTION_DELETE_STARTED" (.connection id) (some "DISABLED")
      (some "PENDING_DELETE")]
  dropSecret row.credentialRef
  recorded (.finalizeConnectionDelete id)
    [security.audit "CONNECTION_DELETED" (.connection id) (some "PENDING_DELETE") (some "DELETED")]

/-- A request for a new connection. -/
structure CreateConnectionRequest where
  provider : ProviderId
  environment : BrokerEnvironment
  label : String
deriving DecidableEq

/-- The row of a connection whose credential is not stored yet. -/
def pendingConnection (request : CreateConnectionRequest)
    (id : ConnectionId) (ref : CredentialRef) : BrokerConnection where
  id := id
  provider := request.provider
  environment := request.environment
  credentialRef := ref
  label := request.label
  credentialFingerprint := "PENDING"
  credentialStatus := .pendingValidation
  credentialClass := .unknown
  credentialScope := .notConfirmed
  enabled := false
  health := healthNow security request.provider request.environment .validating .none none
  capabilities := []
  createdAtUnixMs := security.nowUnixMs
  updatedAtUnixMs := security.nowUnixMs

/-- The row of a connection whose onboarding is complete. -/
def onboarded (row : BrokerConnection) (fingerprint : String)
    (discovery : ProviderDiscovery) : BrokerConnection :=
  { row with
    credentialFingerprint := fingerprint
    credentialStatus := .valid
    credentialClass := discovery.credentialClass
    credentialScope := discovery.credentialScope
    enabled := true
    capabilities := discovery.connectionCapabilities
    health := healthNow security row.provider row.environment .healthy .none none
    updatedAtUnixMs := security.nowUnixMs }

/-- Finish an onboarding. -/
def finishOnboarding (row : BrokerConnection)
    (discovery : ProviderDiscovery) (audits : List AuditRecord) : Service Unit := do
  let accounts := materializeAccounts row discovery.accounts security.nowUnixMs
  recorded (.insertOnboarding row accounts (initialAuthorizations security row.id accounts)) audits

/-- Create a connection from a credential the provider accepts. -/
def createConnection (request : CreateConnectionRequest)
    (credential : SecretBytes) : Service BrokerConnection := do
  require security .manageCredentials
  let _ ← ofExcept ((safeText request.label "connection_label" 128).mapError .model)
  let answer ← validateAndDiscover request.provider request.environment credential
  let discovery ← ofExcept (answer.mapError .provider)
  ofExcept (validateDiscovery discovery)
  let id ← newUuid
  let ref ← newUuid
  let pending := pendingConnection security request id ref
  let _ ← recorded (.insertConnection pending)
    [security.audit "CONNECTION_ONBOARDING_STARTED" (.connection id) none
      (some "PENDING_VALIDATION")]
  let fingerprint : String ←
    secretStore (.put ref ⟨request.provider, request.environment⟩ credential)
  let row := onboarded security pending fingerprint discovery
  let finished ← attempt (finishOnboarding security row discovery
    [security.audit "CONNECTION_CREATED" (.connection id) none (some "ENABLED"),
     security.audit "CREDENTIAL_ADDED" (.credential ref) none (some "VALID")])
  match finished with
  | .ok () => return row
  | .error error => do
    let _ ← trySecretStore (.delete ref)
    throw error

/-! ## Recovery -/

/-- The fingerprint of a stored credential. -/
def fingerprintOf (metadata : List SecretMetadata) (ref : CredentialRef) :
    Except ServiceError String :=
  orStop ((metadata.find? (·.credentialRef = ref)).map (·.fingerprint)) (.secretStore .notFound)

/-- The row of an onboarding that the provider does not let finish. -/
def deferred (row : BrokerConnection) (error : ProviderError) : BrokerConnection :=
  { row with
    enabled := false
    health := healthFromProviderError error row.provider row.environment security.nowUnixMs
    updatedAtUnixMs := security.nowUnixMs }

/-- Complete an onboarding, or give it up. -/
def recoverOnboarding (metadata : List SecretMetadata)
    (report : LifecycleRecoveryReport) (row : BrokerConnection) :
    Service LifecycleRecoveryReport := do
  let current : Except SecretStoreError SecretBytes ←
    trySecretStore (.get row.credentialRef (credentialContext row))
  match current with
  | .error .notFound => do
    let _ ← recorded (.updateConnection (withoutCredential security row
      "encrypted credential missing during startup recovery"))
      [security.audit "CONNECTION_ONBOARDING_FAILED_RECOVERY" (.connection row.id)
        (some "PENDING_VALIDATION") (some "DISABLED")]
    return { report with onboardingDisabled := report.onboardingDisabled + 1 }
  | .error error => throw (.secretStore error)
  | .ok credential => do
    let answer ← validateAndDiscover row.provider row.environment credential
    match answer with
    | .ok discovery => do
      ofExcept (validateDiscovery discovery)
      let fingerprint ← ofExcept (fingerprintOf metadata row.credentialRef)
      finishOnboarding security (onboarded security row fingerprint discovery) discovery
        [security.audit "CONNECTION_ONBOARDING_RECOVERED" (.connection row.id)
          (some "PENDING_VALIDATION") (some "ENABLED")]
      return { report with onboardingFinalized := report.onboardingFinalized + 1 }
    | .error error => do
      let row := deferred security row error
      let _ ← recorded (.updateConnection row)
        [security.audit "CONNECTION_ONBOARDING_RECOVERY_DEFERRED" (.connection row.id)
          (some "PENDING_VALIDATION") (some (healthName row.health.state))]
      return report

/-- The row after the disabling of its credential was completed. -/
def disableRecovered (row : BrokerConnection) : BrokerConnection :=
  { row with
    credentialStatus := .disabled
    enabled := false
    updatedAtUnixMs := security.nowUnixMs }

/-- Complete the disabling of a connection. -/
def recoverDisable (report : LifecycleRecoveryReport)
    (row : BrokerConnection) : Service LifecycleRecoveryReport := do
  let result ← trySecretStore (.disable row.credentialRef)
  match result with
  | .ok _ | .error .disabled => do
    let _ ← recorded (.updateConnection (disableRecovered security row))
      [security.audit "CONNECTION_DISABLE_RECOVERED" (.connection row.id) (some "PENDING_DISABLE")
        (some "DISABLED")]
    return { report with disablesFinalized := report.disablesFinalized + 1 }
  | .error error => throw (.secretStore error)

/-- Complete a rotation that was cut off: ask the provider about the credential that is stored. -/
def recoverRotation (metadata : List SecretMetadata) (row : BrokerConnection) : Service Unit := do
  let result ← attempt (revalidate security row.id)
  match result with
  | .ok recovered => do
    let fingerprint ← ofExcept (fingerprintOf metadata recovered.credentialRef)
    recorded (.updateConnection { recovered with credentialFingerprint := fingerprint })
      [security.audit "CREDENTIAL_ROTATION_RECOVERED" (.connection recovered.id) (some "VALIDATING")
        (some "VALID")]
  | .error (.provider _) => return ()
  | .error error => throw error

/-- Check that an enabled connection has a credential. -/
def verifyCredential (row : BrokerConnection) : Service Unit := do
  let current ← trySecretStore (.get row.credentialRef (credentialContext row))
  match current with
  | .ok _ => return ()
  | .error .notFound | .error .disabled =>
    recorded (.updateConnection (withoutCredential security row
      "credential unavailable during startup verification"))
      [security.audit "CONNECTION_DISABLED_INCONSISTENT_CREDENTIAL" (.connection row.id)
        (some "ENABLED") (some "DISABLED")]
  | .error error => throw (.secretStore error)

/-- Repair a connection whose credential was accepted. -/
def recoverValid (metadata : List SecretMetadata) (row : BrokerConnection) : Service Unit :=
  if row.enabled = true ∧ row.health.state = .validating then
    recoverRotation security metadata row
  else if row.enabled = true then verifyCredential security row
  else return ()

/-- Repair one connection. -/
def recoverConnection (metadata : List SecretMetadata)
    (report : LifecycleRecoveryReport) (row : BrokerConnection) :
    Service LifecycleRecoveryReport :=
  match row.credentialStatus with
  | .pendingValidation => recoverOnboarding security metadata report row
  | .pendingDelete => do
    dropSecret row.credentialRef
    let _ ← recorded (.finalizeConnectionDelete row.id)
      [security.audit "CONNECTION_DELETE_RECOVERED" (.connection row.id) (some "PENDING_DELETE")
        (some "DELETED")]
    return { report with deletesFinalized := report.deletesFinalized + 1 }
  | .pendingDisable => recoverDisable security report row
  | .valid => do
    recoverValid security metadata row
    return report
  | _ => return report

/-- Repair the connections of a list in turn. -/
def recoverConnections (metadata : List SecretMetadata) :
    LifecycleRecoveryReport → List BrokerConnection → Service LifecycleRecoveryReport
  | report, [] => return report
  | report, row :: others => do
    let report ← recoverConnection security metadata report row
    recoverConnections metadata report others

/-- Disable a credential that no connection has. -/
def quarantine (metadata : SecretMetadata) : Service Unit :=
  match metadata.disabled with
  | true => return ()
  | false => secretStore (.disable metadata.credentialRef)

/-- Disable the credentials that no connection has. -/
def quarantineOrphans (rows : List BrokerConnection) :
    LifecycleRecoveryReport → List SecretMetadata → Service LifecycleRecoveryReport
  | report, [] => return report
  | report, metadata :: others =>
    if rows.any (·.credentialRef = metadata.credentialRef) then
      quarantineOrphans rows report others
    else do
      quarantine metadata
      let _ ← recorded .appendAudit [security.audit "ORPHAN_CREDENTIAL_QUARANTINED"
        (.credential metadata.credentialRef) (some "UNOWNED") (some "DISABLED")]
      quarantineOrphans rows
        { report with orphanSecretsQuarantined := report.orphanSecretsQuarantined + 1 } others

/-- Repair what a crash has left behind. -/
def recoverConnectionLifecycle : Service LifecycleRecoveryReport := do
  let rows : List BrokerConnection ← repository .listConnections
  let metadata : List SecretMetadata ← secretStore .metadata
  let report ← recoverConnections security metadata ⟨0, 0, 0, 0, 0⟩ rows
  quarantineOrphans security rows report metadata

/-! ## Bindings and authorizations -/

/-- Let a Vox account trade a provider account. -/
def bindAccount (id : ConnectionId) (providerAccountId : String)
    (voxAccountId : VoxAccountId) : Service BrokerAccountBinding := do
  require security .bindAccounts
  let row ← readConnection id
  let providerAccountId ← ofExcept
    ((safeText providerAccountId "provider_account_id" 256).mapError .model)
  let accounts : List BrokerAccount ← repository (.accounts id)
  let account ← ofExcept (orStop
    (accounts.find? (·.providerAccountId = providerAccountId)) .accountNotFound)
  ofExcept (stopIf (account.accessible = false) .accountUnavailable)
  let bindingId ← newUuid
  let binding : BrokerAccountBinding :=
    ⟨bindingId, id, row.provider, row.environment, providerAccountId, voxAccountId, true,
      security.nowUnixMs, security.nowUnixMs⟩
  let _ ← recorded (.putBinding binding)
    [security.audit "ACCOUNT_BOUND" (.binding bindingId) none (some "CONNECTION")]
  return binding

/-- Delete a binding. -/
def unbindAccount (bindingId : BindingId) : Service Unit := do
  require security .bindAccounts
  recorded (.deleteBinding bindingId)
    [security.audit "ACCOUNT_UNBOUND" (.binding bindingId) (some "BOUND") (some "UNBOUND")]

/-- Switch a binding off. -/
def disableBinding (bindingId : BindingId) : Service Unit := do
  require security .bindAccounts
  recorded (.setBindingEnabled bindingId false security.nowUnixMs)
    [security.audit "ACCOUNT_BINDING_DISABLED" (.binding bindingId) (some "ENABLED")
      (some "DISABLED")]

/-- The permission a change of the mode needs. -/
def transitionPermission : BrokerEnvironment → ExecutionAuthorizationMode →
    ExecutionAuthorizationMode → Permission
  | .production, _, .automatedAllowed => .enableAutomatedProductionExecution
  | .production, _, .manualAllowed => .submitProductionManualOrders
  | _, .disabled, .disabled => .bindAccounts
  | .sandbox, _, _ => .submitSandboxOrders
  | .production, _, .disabled => .emergencyHalt

/-- The caller may lower any mode. -/
def mayLower (previous mode : ExecutionAuthorizationMode) : Service Bool :=
  if authorizationRank mode < authorizationRank previous then
    hasAny security [.emergencyHalt, .disableDeleteConnection, .securityAdmin]
  else pure false

/-- The caller may change the mode. -/
def requireAuthorizationTransition (environment : BrokerEnvironment)
    (previous mode : ExecutionAuthorizationMode) : Service Unit := do
  let allowed ← mayLower security previous mode
  if allowed then pure ()
  else require security (transitionPermission environment previous mode)

/-- What a mode other than `disabled` needs. -/
def executionPossible (row : BrokerConnection) (account : BrokerAccount) :
    Except ServiceError Unit := do
  stopIf (row.enabled = false ∨ row.health.state ≠ .healthy) .connectionUnavailable
  stopIf (account.accessible = false) .accountUnavailable
  stopIf (requiredOrderCapability row.environment ∉ account.capabilities)
    .providerDoesNotAllowProductionOrders

/-- Change what may be executed on an account, if nobody has changed it meanwhile. -/
def setExecutionAuthorizationCas (id : ConnectionId)
    (providerAccountId : String) (mode : ExecutionAuthorizationMode) (expectedRevision : ℕ) :
    Service ExecutionAuthorization := do
  let row ← readConnection id
  let stored : Option ExecutionAuthorization ← repository (.authorization id providerAccountId)
  let previous ← ofExcept (orStop stored .accountNotFound)
  ofExcept (stopIf (previous.authorizationRevision ≠ expectedRevision) .staleExecutionAuthorization)
  requireAuthorizationTransition security row.environment previous.mode mode
  let accounts : List BrokerAccount ← repository (.accounts id)
  let account ← ofExcept (orStop
    (accounts.find? (·.providerAccountId = providerAccountId)) .accountNotFound)
  let bindings : List BrokerAccountBinding ← repository (.bindings id)
  let binding ← ofExcept (orStop (bindings.find? fun binding =>
    binding.providerAccountId = providerAccountId && binding.enabled) .accountBindingMismatch)
  ofExcept (if mode = .disabled then .ok () else executionPossible row account)
  let revision ← ofExcept (nextRevision previous.authorizationRevision)
  let authorization : ExecutionAuthorization :=
    ⟨id, providerAccountId, mode, revision, security.actor, security.nowUnixMs⟩
  let _ ← recorded (.putAuthorization authorization previous.authorizationRevision)
    [security.audit "EXECUTION_AUTHORIZATION_CHANGED" (.binding binding.id)
      (some (authorizationName previous.mode)) (some (authorizationName mode))]
  return authorization

/-- Change what may be executed on an account. -/
def setExecutionAuthorization (id : ConnectionId)
    (providerAccountId : String) (mode : ExecutionAuthorizationMode) :
    Service ExecutionAuthorization := do
  let stored : Option ExecutionAuthorization ← repository (.authorization id providerAccountId)
  let previous ← ofExcept (orStop stored .accountNotFound)
  setExecutionAuthorizationCas security id providerAccountId mode previous.authorizationRevision

/-- Write a role. -/
def replaceRole (role : Role) : Service Unit := do
  require security .securityAdmin
  let _ ← ofExcept ((safeText role.name "role_name" 128).mapError .model)
  recorded (.putRole role)
    [security.audit "ROLE_PERMISSIONS_CHANGED" (.role role.id) none (some "REPLACED")]

/-- Give a role to a user. -/
def grantRole (userId : UserId) (roleId : RoleId) : Service Unit := do
  require security .securityAdmin
  recorded (.grantRole userId roleId)
    [security.audit "ROLE_ASSIGNED" (.user userId) none (some "ROLE")]

/-! ## Access to the broker -/

/-- An account that can be used: its connection, and what it is good for. -/
structure BoundTarget where
  connection : BrokerConnection
  target : AccountTarget
  capabilities : List ConnectionCapability

/-- The connection is healthy, and the account is accessible and bound to the Vox account. -/
def boundHealthyTarget (id : ConnectionId) (providerAccountId : String)
    (voxAccountId : VoxAccountId) : Service BoundTarget := do
  let row ← readConnection id
  ofExcept (stopIf (row.enabled = false ∨ row.health.state ≠ .healthy ∨
    row.credentialStatus = .pendingDelete) .connectionUnavailable)
  let accounts : List BrokerAccount ← repository (.accounts id)
  let account ← ofExcept (orStop
    (accounts.find? (·.providerAccountId = providerAccountId)) .accountNotFound)
  ofExcept (stopIf (account.accessible = false) .accountUnavailable)
  let bindings : List BrokerAccountBinding ← repository (.bindings id)
  ofExcept (stopIf (¬ (bindings.any fun binding =>
    binding.providerAccountId = providerAccountId && binding.voxAccountId = voxAccountId &&
      binding.enabled) = true) .accountBindingMismatch)
  return ⟨row, ⟨id, account.provider, account.environment, providerAccountId, voxAccountId⟩,
    account.capabilities⟩

/-- Read the credential of a connection. -/
def readCredential (row : BrokerConnection) : Service SecretBytes :=
  secretStore (.get row.credentialRef (credentialContext row))

/-- The broker may be read for the account. -/
def validateReadAccess (id : ConnectionId) (providerAccountId : String)
    (voxAccountId : VoxAccountId) : Service ReadAccessGrant := do
  let bound ← boundHealthyTarget id providerAccountId voxAccountId
  let _ ← readCredential bound.connection
  return ⟨bound.target, bound.connection.credentialRef, bound.capabilities⟩

/-- Orders may be sent for the account. -/
def validateExecutionAccess (id : ConnectionId) (providerAccountId : String)
    (voxAccountId : VoxAccountId) (purpose : ExecutionPurpose) (expectedRevision : Option ℕ) :
    Service ExecutionAccessGrant := do
  let bound ← boundHealthyTarget id providerAccountId voxAccountId
  let stored : Option ExecutionAuthorization ← repository (.authorization id providerAccountId)
  let authorization ← ofExcept (orStop stored .executionUnauthorized)
  ofExcept (stopIf
    (expectedRevision.any (fun revision => revision ≠ authorization.authorizationRevision) = true)
    .staleExecutionAuthorization)
  ofExcept (stopIf
    (executionPurposeAllowed bound.connection.environment authorization.mode purpose = false)
    .executionUnauthorized)
  ofExcept (stopIf (requiredOrderCapability bound.connection.environment ∉ bound.capabilities)
    .providerDoesNotAllowProductionOrders)
  let _ ← readCredential bound.connection
  return ⟨bound.target, bound.connection.credentialRef, bound.capabilities, authorization.mode,
    authorization.authorizationRevision⟩

/-- The Vox account a provider account is bound to now. -/
def boundVoxAccount (id : ConnectionId) (providerAccountId : String) : Service VoxAccountId := do
  let bindings : List BrokerAccountBinding ← repository (.bindings id)
  ofExcept (orStop ((bindings.find? fun binding =>
    binding.providerAccountId = providerAccountId && binding.enabled).map (·.voxAccountId))
    .accountBindingMismatch)

/-- The broker may be read for the Vox account the account is bound to now. -/
def validateRuntimeReadAccess (id : ConnectionId) (providerAccountId : String) :
    Service ReadAccessGrant := do
  let voxAccountId ← boundVoxAccount id providerAccountId
  validateReadAccess id providerAccountId voxAccountId

/-- Orders may be sent for the Vox account the account is bound to now. -/
def validateRuntimeExecutionAccess (id : ConnectionId) (providerAccountId : String)
    (purpose : ExecutionPurpose) (expectedRevision : Option ℕ) : Service ExecutionAccessGrant := do
  let voxAccountId ← boundVoxAccount id providerAccountId
  validateExecutionAccess id providerAccountId voxAccountId purpose expectedRevision

/-- Build a client. -/
def buildClient (target : AccountTarget) (credential : SecretBytes) : Service Unit :=
  orFail .provider (perform (I := service) (.buildClient target credential))

/-- A client that reads. -/
def openRuntimeReadClient (id : ConnectionId) (providerAccountId : String) :
    Service AccountTarget := do
  let voxAccountId ← boundVoxAccount id providerAccountId
  let bound ← boundHealthyTarget id providerAccountId voxAccountId
  let credential ← readCredential bound.connection
  buildClient bound.target credential
  return bound.target

/-- A client that sends orders. -/
def openRuntimeExecutionClient (id : ConnectionId) (providerAccountId : String)
    (purpose : ExecutionPurpose) (expectedRevision : ℕ) : Service ExecutionClient := do
  let grant ← validateRuntimeExecutionAccess id providerAccountId purpose (some expectedRevision)
  let row ← readConnection id
  let credential ← readCredential row
  buildClient grant.target credential
  return ⟨grant.target, grant.authorizationRevision⟩

/-! ## Reads -/

/-- All connections. -/
def listConnections : Service (List BrokerConnection) := do
  require security .viewConnectionMetadata
  repository .listConnections

/-- The accounts of a connection. -/
def discoveredAccounts (id : ConnectionId) : Service (List BrokerAccount) := do
  require security .viewConnectionMetadata
  let _ ← readConnection id
  repository (.accounts id)

/-- The bindings of a connection. -/
def accountBindings (id : ConnectionId) : Service (List BrokerAccountBinding) := do
  require security .viewConnectionMetadata
  let _ ← readConnection id
  repository (.bindings id)

/-- The authorization of an account. -/
def executionAuthorization (id : ConnectionId)
    (providerAccountId : String) : Service ExecutionAuthorization := do
  require security .viewConnectionMetadata
  let _ ← readConnection id
  let stored : Option ExecutionAuthorization ← repository (.authorization id providerAccountId)
  ofExcept (orStop stored .accountNotFound)

end VoxTrader.Connections
