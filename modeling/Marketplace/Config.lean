import Marketplace.Json.Vocabulary
import Marketplace.Text.Quoted

/-!
# Configuration

What a process is told by the variables of its environment. A blank variable counts as missing and
leaves the default; the first variable with a value of no use is reported.
-/

namespace Marketplace

/-- How log lines are written. -/
inductive LogFormat where
  | text
  | json
  deriving DecidableEq

def LogFormat.name : LogFormat → String
  | .text => "text"
  | .json => "json"

/-- The settings of a process. -/
structure Config where
  /-- The service to host, or all of them. -/
  service : Option Service
  host : String
  port : Nat
  logLevel : String
  logFormat : LogFormat
  /-- The message broker; without one, messages stay in the process. -/
  natsUrl : Option String
  /-- Where the grants of subjects are listed. -/
  authzUrl : String
  /-- For how long a cache serves an entry, in seconds. -/
  cacheLifetime : Nat
  /-- How often caches are swept, in seconds. -/
  cacheSweep : Nat
  /-- What a new wallet holds. -/
  initialBalance : Money

/-- A variable with a value of no use. -/
structure ConfigError where
  key : String
  value : String
  deriving DecidableEq

def ConfigError.message (e : ConfigError) : String :=
  "invalid " ++ e.key ++ ": " ++ Text.quoted e.value

namespace Config

/-- The settings of a process that is told nothing. -/
def standard : Config where
  service := none
  host := "0.0.0.0"
  port := 3000
  logLevel := "info"
  logFormat := .text
  natsUrl := none
  authzUrl := "http://localhost:3000/policies"
  cacheLifetime := 300
  cacheSweep := 600
  initialBalance := .nearest 10000

/-- The variables of an environment. -/
abbrev Variables := String → Option String

/-- The value of a variable that is not blank. -/
def value? (vars : Variables) (key : String) : Option String :=
  (vars key).filter fun v => !Text.isAllBlank v

/-- The value of a variable that a function understands, or a default. -/
def parsed {α : Type} (vars : Variables) (key : String) (parse : String → Option α)
    (missing : α) : Except ConfigError α :=
  match value? vars key with
  | none => .ok missing
  | some v =>
    match parse v with
    | some a => .ok a
    | none => .error ⟨key, v⟩

/-- A number below a bound, blanks around it aside. -/
def natBelow (bound : Nat) (s : String) : Option Nat :=
  (Text.unsigned? (Text.trim s)).filter fun n => n < bound

/-- An amount of cents, blanks around it aside. -/
def amount (s : String) : Option Money := (Text.signed? (Text.trim s)).bind Money.ofCents?

/-- One service by its name, or all of them. -/
def serviceChoice (s : String) : Option (Option Service) :=
  if s = "all" then some none else (Service.ofName? s).map some

/-- A format by its name. -/
def formatChoice (s : String) : Option LogFormat :=
  if s = "text" then some .text else if s = "json" then some .json else none

/-- The settings that variables ask for. -/
def ofVariables (vars : Variables) : Except ConfigError Config := do
  let service ← parsed vars "SERVICE" serviceChoice none
  let logFormat ← parsed vars "LOG_FORMAT" formatChoice .text
  let port ← parsed vars "PORT" (natBelow 65536) standard.port
  let cacheLifetime ←
    parsed vars "POLICY_CACHE_TTL_SECS" (natBelow UInt64.size) standard.cacheLifetime
  let cacheSweep ← parsed vars "POLICY_CACHE_SWEEP_SECS" (natBelow UInt64.size) standard.cacheSweep
  let initialBalance ←
    parsed vars "INITIAL_WALLET_BALANCE_CENTS" amount standard.initialBalance
  return {
    service, logFormat, port, cacheLifetime, cacheSweep, initialBalance
    host := (value? vars "HOST").getD standard.host
    logLevel := (value? vars "RUST_LOG").getD standard.logLevel
    natsUrl := value? vars "NATS_URL"
    authzUrl := (value? vars "AUTHZ_URL").getD standard.authzUrl }

/-- Where the process listens. -/
def address (c : Config) : String := c.host ++ ":" ++ String.ofList (Text.decimal c.port)

/-- The services that the process hosts. -/
def services (c : Config) : List Service :=
  match c.service with
  | some v => [v]
  | none => Service.all

/-- What the process is called. -/
def processName (c : Config) : String :=
  match c.service with
  | some v => v.name
  | none => "all"

def toJson (c : Config) : Json :=
  .record [("service", .ofOption (c.service.map Service.toJson)),
    ("services", .list (c.services.map Service.toJson)), ("process_name", .text c.processName),
    ("addr", .text c.address), ("host", .text c.host), ("port", .ofNat c.port),
    ("log_level", .text c.logLevel), ("log_format", .text c.logFormat.name),
    ("nats_url", .ofOption (c.natsUrl.map .text)), ("authz_url", .text c.authzUrl),
    ("ttl", .ofNat c.cacheLifetime), ("sweep", .ofNat c.cacheSweep),
    ("balance", c.initialBalance.toJson)]

instance : ToJson Config := ⟨toJson⟩

end Config

end Marketplace
