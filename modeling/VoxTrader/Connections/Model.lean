import VoxTrader.Runtime.Model

/-!
# Broker connections: data and pure functions

The records of the connection service and the functions of it that neither read nor write a store.
A UUID is a number; the prefixes of its text only keep the kinds of identities apart, which the
types do here. A set of capabilities or permissions is a list.

## Main definitions

* `BrokerConnection`, `BrokerAccount`, `BrokerAccountBinding`, `ExecutionAuthorization` — the rows
  of the connection database.
* `ProviderDiscovery`, `ProviderError` — what the provider says about a credential.
* `ServiceError` — the errors of the service.
* `safeText`, `validateDiscovery`, `materializeAccounts`, `accessRemoved`,
  `withDisappearedAccounts`, `healthFromProviderError`, `executionPurposeAllowed` — the functions.
-/

namespace VoxTrader.Connections

/-! ## Identities and enumerations -/

abbrev ConnectionId := ℕ

abbrev CredentialRef := ℕ

abbrev BindingId := ℕ

abbrev VoxAccountId := ℕ

abbrev UserId := ℕ

abbrev RoleId := ℕ

abbrev ProviderId := String

/-- A credential in the clear. -/
abbrev SecretBytes := List UInt8

/-- Whether real money is at stake. -/
inductive BrokerEnvironment
  | production
  | sandbox
deriving DecidableEq

/-- What is known about the credential of a connection. -/
inductive CredentialStatus
  | pendingValidation
  | valid
  | invalid
  | expiredOrInactive
  | pendingDisable
  | disabled
  | pendingDelete
deriving DecidableEq

/-- What a credential allows. -/
inductive CredentialClass
  | unknown
  | readOnly
  | fullAccess
  | transferAccess
  | sandbox
deriving DecidableEq

/-- The accounts a credential is good for. -/
inductive CredentialScope
  | notConfirmed
  | singleAccountRestricted
  | allAccessibleAccounts
deriving DecidableEq

inductive ConnectionCapability
  | accountDiscovery
  | portfolioRead
  | positionsRead
  | operationsRead
  | streamHealth
  | sandboxOrders
  | productionOrdersProviderAllowed
deriving DecidableEq

inductive ConnectionHealthState
  | unknown
  | validating
  | healthy
  | invalidCredential
  | insufficientPermission
  | providerUnavailable
  | accountAccessChanged
  | disabled
deriving DecidableEq

inductive ConnectionHealthReason
  | none
  | invalidCredential
  | expiredOrInactive
  | permissionDenied
  | wrongEnvironment
  | providerUnavailable
  | accountAccessChanged
  | disabledByOperator
deriving DecidableEq

inductive ExecutionAuthorizationMode
  | disabled
  | manualAllowed
  | automatedAllowed
deriving DecidableEq

inductive Permission
  | viewConnectionMetadata
  | manageCredentials
  | disableDeleteConnection
  | discoverAccounts
  | bindAccounts
  | viewPortfolio
  | submitSandboxOrders
  | submitProductionManualOrders
  | enableAutomatedProductionExecution
  | changeRiskPolicy
  | emergencyHalt
  | securityAdmin
deriving DecidableEq

inductive ExecutionPurpose
  | sandboxMutation
  | productionManual
  | productionAutomated
deriving DecidableEq

/-! ## Rows -/

structure ConnectionHealth where
  state : ConnectionHealthState
  checkedAtUnixMs : Option ℤ
  provider : ProviderId
  environment : BrokerEnvironment
  reasonCode : ConnectionHealthReason
  safeDetail : Option String
  retryable : Bool
deriving DecidableEq

structure BrokerConnection where
  id : ConnectionId
  provider : ProviderId
  environment : BrokerEnvironment
  credentialRef : CredentialRef
  label : String
  credentialFingerprint : String
  credentialStatus : CredentialStatus
  credentialClass : CredentialClass
  credentialScope : CredentialScope
  enabled : Bool
  health : ConnectionHealth
  capabilities : List ConnectionCapability
  createdAtUnixMs : ℤ
  updatedAtUnixMs : ℤ
deriving DecidableEq

structure BrokerAccount where
  connectionId : ConnectionId
  provider : ProviderId
  environment : BrokerEnvironment
  providerAccountId : String
  displayName : Option String
  accessible : Bool
  capabilities : List ConnectionCapability
  discoveredAtUnixMs : ℤ
deriving DecidableEq

/-- Which Vox account trades a provider account. -/
structure BrokerAccountBinding where
  id : BindingId
  connectionId : ConnectionId
  provider : ProviderId
  environment : BrokerEnvironment
  providerAccountId : String
  voxAccountId : VoxAccountId
  enabled : Bool
  createdAtUnixMs : ℤ
  updatedAtUnixMs : ℤ
deriving DecidableEq

structure AccountTarget where
  connectionId : ConnectionId
  provider : ProviderId
  environment : BrokerEnvironment
  providerAccountId : String
  voxAccountId : VoxAccountId
deriving DecidableEq

/-- What may be executed on a provider account. -/
structure ExecutionAuthorization where
  connectionId : ConnectionId
  providerAccountId : String
  mode : ExecutionAuthorizationMode
  authorizationRevision : ℕ
  changedBy : UserId
  changedAtUnixMs : ℤ
deriving DecidableEq

structure User where
  id : UserId
  enabled : Bool
deriving DecidableEq

structure Role where
  id : RoleId
  name : String
  permissions : List Permission
deriving DecidableEq

/-- Who calls the service, and when. -/
structure SecurityContext where
  actor : UserId
  nowUnixMs : ℤ
deriving DecidableEq

/-- What an audit row is about. -/
inductive AuditTarget
  | connection (id : ConnectionId)
  | credential (ref : CredentialRef)
  | binding (id : BindingId)
  | role (id : RoleId)
  | user (id : UserId)
deriving DecidableEq

structure AuditRecord where
  actor : UserId
  action : String
  target : AuditTarget
  previousState : Option String
  newState : Option String
  occurredAtUnixMs : ℤ
deriving DecidableEq

/-- What a stored credential is bound to. -/
structure CredentialContext where
  provider : ProviderId
  environment : BrokerEnvironment
deriving DecidableEq

structure SecretMetadata where
  credentialRef : CredentialRef
  context : CredentialContext
  fingerprint : String
  disabled : Bool
deriving DecidableEq

/-! ## What the provider says -/

structure ProviderAccountFact where
  providerAccountId : String
  displayName : Option String
  accessible : Bool
  capabilities : List ConnectionCapability
deriving DecidableEq

structure ProviderDiscovery where
  credentialClass : CredentialClass
  credentialScope : CredentialScope
  connectionCapabilities : List ConnectionCapability
  accounts : List ProviderAccountFact
deriving DecidableEq

/-- Why the provider refuses a credential. -/
inductive ProviderError
  | invalidCredential
  | insufficientPermission
  | wrongEnvironment
  | providerUnavailable
  | expiredOrInactive
  | accountAccessChanged
  | unsupportedProvider
deriving DecidableEq

/-! ## Errors -/

inductive ModelError
  | empty (field : String)
  | unsafeMetadata (field : String)
deriving DecidableEq

/-- The errors of the connection database; `persistence` stands for all of SQLite's. -/
inductive RepositoryError
  | persistence
  | notFound
  | identityMismatch
  | staleAuthorizationRevision
deriving DecidableEq

/-- The errors of the credential store; `persistence` stands for those of SQLite, of the key
provider and of the cipher. -/
inductive SecretStoreError
  | alreadyExists
  | notFound
  | contextMismatch
  | notFoundOrContextMismatch
  | disabled
  | persistence
deriving DecidableEq

inductive ServiceError
  | permissionDenied (permission : Permission)
  | connectionNotFound
  | accountNotFound
  | accountUnavailable
  | connectionDisabled
  | connectionUnavailable
  | disableBeforeDelete
  | accountBindingMismatch
  | providerDoesNotAllowProductionOrders
  | executionUnauthorized
  | staleExecutionAuthorization
  | authorizationRevisionOverflow
  | credentialRotationCompensationFailed
  | duplicateProviderAccount
  | model (error : ModelError)
  | repository (error : RepositoryError)
  | secretStore (error : SecretStoreError)
  | provider (error : ProviderError)
deriving DecidableEq

/-! ## Functions -/

/-- A control character in the sense of Unicode. -/
def isControl (c : Char) : Bool := c.toNat < 0x20 || (0x7f ≤ c.toNat && c.toNat < 0xa0)

/-- A text that is not blank, bounded, and does not look like secret material. -/
def safeText (value field : String) (maxLength : ℕ) : Except ModelError String := do
  let lower := value.toList.map Char.toLower
  let trimmed := lower.dropWhile Text.isWhitespace
  Except.stopIf (Text.isBlank value) (.empty field)
  Except.stopIf (maxLength < Runtime.byteLength value.toList ∨ Runtime.occursIn "bearer " lower ∨
    Runtime.occursIn "token=" lower ∨ Runtime.occursIn "secret=" lower ∨
    "t.".toList.isPrefixOf trimmed ∨ "eyj".toList.isPrefixOf trimmed ∨
    value.toList.any isControl) (.unsafeMetadata field)
  return value

/-- The check of one account of a discovery, after those with the identities `seen`. -/
def validateFact (seen : List String) (account : ProviderAccountFact) :
    Except ServiceError (List String) := do
  let _ ← (safeText account.providerAccountId "provider_account_id" 256).mapError .model
  Except.stopIf (account.providerAccountId ∈ seen) .duplicateProviderAccount
  if let some name := account.displayName then
    let _ ← (safeText name "account_display_name" 256).mapError .model
  return account.providerAccountId :: seen

/-- The accounts of a discovery are safe to store, and no two are the same. -/
def validateDiscovery (discovery : ProviderDiscovery) : Except ServiceError Unit :=
  (discovery.accounts.foldlM validateFact []).map fun _ => ()

/-- The rows for the accounts the provider names. -/
def materializeAccounts (connection : BrokerConnection) (accounts : List ProviderAccountFact)
    (nowUnixMs : ℤ) : List BrokerAccount :=
  accounts.map fun account =>
    { connectionId := connection.id
      provider := connection.provider
      environment := connection.environment
      providerAccountId := account.providerAccountId
      displayName := account.displayName
      accessible := account.accessible
      capabilities := account.capabilities
      discoveredAtUnixMs := nowUnixMs }

/-- An account that was accessible is not any more. -/
def accessRemoved (previous current : List BrokerAccount) : Bool :=
  (previous.filter (·.accessible)).any fun old =>
    !current.any fun new => new.providerAccountId = old.providerAccountId && new.accessible

/-- The current accounts, and those that are gone, without access. -/
def withDisappearedAccounts (previous current : List BrokerAccount) : List BrokerAccount :=
  current ++ (previous.filter fun old =>
    !current.any fun new => new.providerAccountId = old.providerAccountId).map fun old =>
      { old with accessible := false, capabilities := [] }

/-- What the credential of a connection has to be bound to. -/
def credentialContext (connection : BrokerConnection) : CredentialContext :=
  ⟨connection.provider, connection.environment⟩

/-- The text for a provider error. -/
def providerErrorDetail : ProviderError → String
  | .invalidCredential => "provider rejected credential"
  | .insufficientPermission => "provider permission denied"
  | .wrongEnvironment => "credential environment mismatch"
  | .providerUnavailable => "provider unavailable"
  | .expiredOrInactive => "credential expired or inactive"
  | .accountAccessChanged => "account access changed"
  | .unsupportedProvider => "provider unsupported"

/-- The health of a connection whose credential the provider refuses. -/
def healthFromProviderError (error : ProviderError) (provider : ProviderId)
    (environment : BrokerEnvironment) (nowUnixMs : ℤ) : ConnectionHealth where
  state := match error with
    | .invalidCredential | .expiredOrInactive => .invalidCredential
    | .insufficientPermission => .insufficientPermission
    | .accountAccessChanged => .accountAccessChanged
    | .wrongEnvironment | .providerUnavailable | .unsupportedProvider => .providerUnavailable
  checkedAtUnixMs := some nowUnixMs
  provider := provider
  environment := environment
  reasonCode := match error with
    | .invalidCredential => .invalidCredential
    | .expiredOrInactive => .expiredOrInactive
    | .insufficientPermission => .permissionDenied
    | .wrongEnvironment => .wrongEnvironment
    | .providerUnavailable | .unsupportedProvider => .providerUnavailable
    | .accountAccessChanged => .accountAccessChanged
  safeDetail := some (providerErrorDetail error)
  retryable := error = .providerUnavailable

/-- The name of a health in audit rows. -/
def healthName : ConnectionHealthState → String
  | .unknown => "UNKNOWN"
  | .validating => "VALIDATING"
  | .healthy => "HEALTHY"
  | .invalidCredential => "INVALID_CREDENTIAL"
  | .insufficientPermission => "INSUFFICIENT_PERMISSION"
  | .providerUnavailable => "PROVIDER_UNAVAILABLE"
  | .accountAccessChanged => "ACCOUNT_ACCESS_CHANGED"
  | .disabled => "DISABLED"

/-- The name of a mode in audit rows. -/
def authorizationName : ExecutionAuthorizationMode → String
  | .disabled => "DISABLED"
  | .manualAllowed => "MANUAL_ALLOWED"
  | .automatedAllowed => "AUTOMATED_ALLOWED"

/-- How much a mode allows. -/
def authorizationRank : ExecutionAuthorizationMode → ℕ
  | .disabled => 0
  | .manualAllowed => 1
  | .automatedAllowed => 2

/-- The mode allows the purpose, in the environment it is meant for. -/
def executionPurposeAllowed :
    BrokerEnvironment → ExecutionAuthorizationMode → ExecutionPurpose → Bool
  | .sandbox, .manualAllowed, .sandboxMutation => true
  | .sandbox, .automatedAllowed, .sandboxMutation => true
  | .production, .manualAllowed, .productionManual => true
  | .production, .automatedAllowed, .productionManual => true
  | .production, .automatedAllowed, .productionAutomated => true
  | _, _, _ => false

/-- The capability an account needs for orders. -/
def requiredOrderCapability : BrokerEnvironment → ConnectionCapability
  | .production => .productionOrdersProviderAllowed
  | .sandbox => .sandboxOrders

end VoxTrader.Connections
