import TenantWork.Config.Settings
/-!
The fixed parts of a service: its settings and the names of its executors in order of
registration. Names are distinct, and a default executor that is set is one of them.
-/
namespace TenantWork

structure Service where
  settings : Config.ServiceSettings
  executors : List String
  named_once : executors.Nodup
  default_known : ∀ name, settings.defaultExecutor = some name → name ∈ executors

namespace Service

/-- The first name that stands before already. -/
def repeated? (seen : List String) : List String → Option String
  | [] => none
  | name :: rest => if name ∈ seen then some name else repeated? (name :: seen) rest

def unknownDefault? (settings : Config.ServiceSettings) (names : List String) : Option String :=
  settings.defaultExecutor.filter fun name => decide (name ∉ names)

theorem default_known_of_unknownDefault? {settings : Config.ServiceSettings} {names : List String}
    (known : unknownDefault? settings names = none) (name : String)
    (chosen : settings.defaultExecutor = some name) : name ∈ names := by
  simpa [unknownDefault?, chosen, Option.filter_eq_none_iff] using known

def setUp (settings : Config.ServiceSettings) (names : List String) : Except Error Service :=
  if once : names.Nodup then
    match known : unknownDefault? settings names with
    | none => .ok ⟨settings, names, once, default_known_of_unknownDefault? known⟩
    | some name => .error (.configInvalid "executor" "default"
        ("no executor named " ++ name ++ " is registered"))
  else .error (.invalidInput (.executorTwice ((repeated? [] names).getD "")))

/-- The executor that new work goes to. -/
def chosen (service : Service) : Option String :=
  match service.settings.defaultExecutor with
  | some name => some name
  | none => service.executors.head?

end Service

end TenantWork
