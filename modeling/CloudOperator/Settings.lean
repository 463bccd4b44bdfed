import CloudOperator.Text.Blank
import CloudOperator.Text.Numeral
import CloudOperator.Text.Summary
import CloudOperator.Time.Duration

/-!
# Settings

The settings of the operator, read from environment variables, and the check that
it can run with them.
-/

namespace CloudOperator

/-- The settings of the operator. -/
structure Settings where
  apiGateway : String
  keycloakUrl : String
  keycloakRealm : String
  vaultAddress : String
  vaultNamespace : String
  vaultRolePath : String
  vaultRoleId : String
  vaultRoleSecret : String
  vaultKvMount : String
  metricsPort : Nat
  requeueIntervalSeconds : Nat
  phaseTimeoutSeconds : Nat
  resyncIntervalSeconds : Nat
  reconcileTimeoutSeconds : Nat
  httpTimeoutSeconds : Nat
  errorBackoffMinMinutes : Nat
  errorBackoffMaxMinutes : Nat
  maxConcurrentReconciliations : Nat
  logFormat : String
deriving DecidableEq, Repr

/-- A cause for which the operator cannot run with its settings. -/
inductive SettingsFailure where
  /-- A setting that is needed is blank. -/
  | missing (name : String)
  /-- A setting that has to be positive is zero. -/
  | zero (name : String)
deriving DecidableEq, Repr

/-- The text of a cause. -/
def SettingsFailure.message : SettingsFailure → String
  | missing name => "required setting " ++ name ++ " is empty"
  | zero name => "setting " ++ name ++ " must be greater than zero"

namespace Settings

/-- The settings that an environment gives, with defaults for what it does not give
or gives in a form that cannot be read. -/
def ofEnvironment (value? : String → Option String) : Settings :=
  let text name fallback := (value? name).getD fallback
  let word name fallback := ((value? name).bind (readNumeralBelow UInt64.size)).getD fallback
  let short name fallback := ((value? name).bind (readNumeralBelow UInt16.size)).getD fallback
  { apiGateway := text "API_GATEWAY" ""
    keycloakUrl := text "KEYCLOAK_URL" ""
    keycloakRealm := text "KEYCLOAK_REALM" ""
    vaultAddress := text "VAULT_ADDRESS" ""
    vaultNamespace := text "VAULT_NAMESPACE" ""
    vaultRolePath := text "VAULT_ROLE_PATH" "approle"
    vaultRoleId := text "VAULT_ROLE_ID" ""
    vaultRoleSecret := text "VAULT_ROLE_SECRET" ""
    vaultKvMount := text "VAULT_KV_MOUNT" "secret"
    metricsPort := short "METRICS_PORT" 5000
    requeueIntervalSeconds := word "REQUEUE_INTERVAL_SECS" 20
    phaseTimeoutSeconds := word "PHASE_TIMEOUT_SECS" 300
    resyncIntervalSeconds := word "RESYNC_INTERVAL_SECS" 600
    reconcileTimeoutSeconds := word "RECONCILE_TIMEOUT_SECS" 120
    httpTimeoutSeconds := word "HTTP_TIMEOUT_SECS" 30
    errorBackoffMinMinutes := word "ERROR_BACKOFF_MIN_MINUTES" 1
    errorBackoffMaxMinutes := word "ERROR_BACKOFF_MAX_MINUTES" 10
    maxConcurrentReconciliations := short "MAX_CONCURRENT_RECONCILIATIONS" 10
    logFormat := text "LOG_FORMAT" "json" }

/-- The settings that must not be blank. -/
def needed (s : Settings) : List (String × String) :=
  [("API_GATEWAY", s.apiGateway), ("KEYCLOAK_URL", s.keycloakUrl),
    ("KEYCLOAK_REALM", s.keycloakRealm), ("VAULT_ADDRESS", s.vaultAddress),
    ("VAULT_ROLE_ID", s.vaultRoleId), ("VAULT_ROLE_SECRET", s.vaultRoleSecret)]

/-- The settings that must be positive. -/
def positive (s : Settings) : List (String × Nat) :=
  [("REQUEUE_INTERVAL_SECS", s.requeueIntervalSeconds),
    ("PHASE_TIMEOUT_SECS", s.phaseTimeoutSeconds),
    ("RESYNC_INTERVAL_SECS", s.resyncIntervalSeconds),
    ("RECONCILE_TIMEOUT_SECS", s.reconcileTimeoutSeconds),
    ("HTTP_TIMEOUT_SECS", s.httpTimeoutSeconds),
    ("MAX_CONCURRENT_RECONCILIATIONS", s.maxConcurrentReconciliations)]

/-- The first cause for which the operator cannot run. -/
def failure? (s : Settings) : Option SettingsFailure :=
  match s.needed.find? fun (_, value) => trimBlanks value = "" with
  | some (name, _) => some (.missing name)
  | none => (s.positive.find? fun (_, value) => value = 0).map fun (name, _) => .zero name

/-- The settings on one line, without secrets. -/
def summary (s : Settings) : String :=
  Summary.partly "ControllerConfig" [
    ("api_gateway", quoted s.apiGateway),
    ("keycloak_url", quoted s.keycloakUrl),
    ("keycloak_realm", quoted s.keycloakRealm),
    ("vault_address", quoted s.vaultAddress),
    ("vault_namespace", quoted s.vaultNamespace),
    ("vault_role_path", quoted s.vaultRolePath),
    ("vault_role_id", quoted s.vaultRoleId),
    ("vault_role_secret", Summary.hidden),
    ("vault_kv_mount", quoted s.vaultKvMount),
    ("metrics_port", toString s.metricsPort),
    ("requeue_interval_secs", toString s.requeueIntervalSeconds),
    ("phase_timeout_secs", toString s.phaseTimeoutSeconds),
    ("resync_interval_secs", toString s.resyncIntervalSeconds),
    ("reconcile_timeout_secs", toString s.reconcileTimeoutSeconds),
    ("max_concurrent_reconciliations", toString s.maxConcurrentReconciliations)]

end Settings

end CloudOperator
