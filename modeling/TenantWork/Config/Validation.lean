import TenantWork.Config.Settings
/-!
The check of a port before settings are taken through it: storage, replay policies, executor and
logging, in this order, the first fault being the answer. `Settings.ofPort` reads the values in
use, and `DatabaseOptions.ofPort` those of the database.
-/
namespace TenantWork.Config

def succeeds {α : Type} : Except Error α → Bool
  | .ok _ => true
  | .error _ => false

def checkPath (port : Port) : Except Error Unit :=
  match port.text? "store" "path" with
  | some path =>
    if Text.isBlank path then .error (.configInvalid "store" "path" "path must not be empty")
    else .ok ()
  | none => .error (.configMissing "store" "path")

def checkConnections (port : Port) : Except Error Unit :=
  match port.text? "store" "pool_size" with
  | some text =>
    match Number.natural? (Text.trim text) with
    | some n =>
      if 1 ≤ n ∧ n ≤ connectionLimit then .ok ()
      else .error (.configInvalid "store" "pool_size" "pool_size must be between 1 and 4294967295")
    | none =>
      .error (.configInvalid "store" "pool_size" "pool_size must be between 1 and 4294967295")
  | none => .ok ()

def checkBackend (port : Port) : Except Error Backend :=
  match port.text? "store" "backend" with
  | some text =>
    match Backend.parse text with
    | .ok backend => .ok backend
    | .error _ => .error (.configInvalid "store" "backend" "backend must be memory or sqlite")
  | none => .ok .database

def checkStorage (port : Port) : Except Error Unit := do
  let backend ← checkBackend port
  if backend = .database then checkPath port
  checkConnections port

def checkPolicies (port : Port) : List String → Except Error Unit
  | [] => .ok ()
  | key :: rest =>
    if !succeeds (Kind.parse key) then
      .error (.configInvalid "idempotency" key "not a known kind")
    else if !succeeds (Policy.parse ((port.text? "idempotency" key).getD "")) then
      .error (.configInvalid "idempotency" key "policy must be replay or reject")
    else checkPolicies port rest

def checkExecutor (port : Port) : Except Error Unit :=
  match port.text? "executor" "default" with
  | some name =>
    if Text.isBlank name then
      .error (.configInvalid "executor" "default" "executor name must not be empty")
    else .ok ()
  | none => .ok ()

def logLevels : List String := ["trace", "debug", "info", "warn", "error"]

def checkLevel (port : Port) : Except Error Unit :=
  match port.text? "logging" "level" with
  | some level =>
    if logLevels.contains (Text.fold level) then .ok ()
    else .error (.configInvalid "logging" "level"
      "level must be one of trace, debug, info, warn, error")
  | none => .ok ()

def checkFormat (port : Port) : Except Error Unit :=
  match port.text? "logging" "format" with
  | some format =>
    if ["pretty", "json"].contains (Text.trim format) then .ok ()
    else .error (.configInvalid "logging" "format" "format must be pretty or json")
  | none => .ok ()

def validate (port : Port) : Except Error Unit := do
  checkStorage port
  checkPolicies port (port.keys "idempotency")
  checkExecutor port
  checkLevel port
  checkFormat port

/-- The policies behind a port, key by key; of two keys for one kind the later one counts. -/
def readPolicies (port : Port) (settings : ServiceSettings) :
    List String → Except Error ServiceSettings
  | [] => .ok settings
  | key :: rest => do
    let kind ← Kind.parse key
    match port.text? "idempotency" key with
    | some text => readPolicies port (settings.withPolicy kind (← Policy.parse text)) rest
    | none => readPolicies port settings rest

def Settings.ofPort (port : Port) : Except Error Settings := do
  validate port
  let backend ← match port.text? "store" "backend" with
    | some text => Backend.parse text
    | none => .ok .database
  let service ← readPolicies port .default (port.keys "idempotency")
  let executor := (port.text? "executor" "default").filter fun name => !Text.isBlank name
  let format := if port.text? "logging" "format" = some "json" then .json else .pretty
  return ⟨backend, { service with defaultExecutor := executor },
    (port.text? "logging" "level").getD "info", format⟩

def DatabaseOptions.ofPort (port : Port) : Except Error DatabaseOptions :=
  match port.text? "store" "path" with
  | none => .error (.configMissing "store" "path")
  | some path =>
    let size := port.integer "store" "pool_size" 4
    if 1 ≤ size ∧ size ≤ connectionLimit then .ok ⟨path, size.toNat⟩
    else .error (.configInvalid "store" "pool_size" "must be between 1 and 4294967295")

end TenantWork.Config
