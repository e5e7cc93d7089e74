import TenantWork.Config.Source
import TenantWork.Work.Owner
/-!
The settings of the program. What a repeated submission under a used key does is set for each kind
apart; orders are never replayed unless the settings say so.
-/
namespace TenantWork.Config

/-- What a repeated submission under a used key does. -/
inductive Policy where
  /-- Gives the existing entity when kind and payload are the same. -/
  | replay
  | reject
deriving DecidableEq, Repr

namespace Policy

def name : Policy → String
  | .replay => "replay"
  | .reject => "reject"

def forKind : Kind → Policy
  | .job | .backtestTask | .tradingSignal => .replay
  | .tradeOrder => .reject

def parse (text : String) : Except Error Policy :=
  match Text.fold text with
  | "replay" => .ok .replay
  | "reject" => .ok .reject
  | other => .error (.invalidInput (.unknownPolicy other))

end Policy

inductive Backend where
  | memory
  | database
deriving DecidableEq, Repr

namespace Backend

def name : Backend → String
  | .memory => "memory"
  | .database => "sqlite"

def parse (text : String) : Except Error Backend :=
  match Text.fold text with
  | "memory" => .ok .memory
  | "sqlite" => .ok .database
  | other => .error (.invalidInput (.unknownBackend other))

end Backend

inductive LogFormat where
  | pretty
  | json
deriving DecidableEq, Repr

def LogFormat.name : LogFormat → String
  | .pretty => "pretty"
  | .json => "json"

structure ServiceSettings where
  policy : Kind → Policy
  defaultExecutor : Option String

namespace ServiceSettings

def default : ServiceSettings := ⟨Policy.forKind, none⟩

def withPolicy (settings : ServiceSettings) (kind : Kind) (policy : Policy) : ServiceSettings :=
  { settings with policy := fun other => if other = kind then policy else settings.policy other }

end ServiceSettings

structure Settings where
  backend : Backend
  service : ServiceSettings
  level : String
  format : LogFormat

/-- How the database file is opened. -/
structure DatabaseOptions where
  path : String
  connections : Nat
deriving DecidableEq, Repr

/-- The file that outlives the program. Under one path the database is kept in memory instead. -/
def DatabaseOptions.file? (options : DatabaseOptions) : Option String :=
  if options.path = ":memory:" then none else some options.path

/-- The greatest number of connections, `2 ^ 32 - 1`. -/
def connectionLimit : Nat := 4294967295

end TenantWork.Config
