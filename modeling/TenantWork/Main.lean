import TenantWork.Command.Report
import TenantWork.Json.Layout
import TenantWork.Store.Archive
import TenantWork.Store.Memory
import TenantWork.Text.Identifier
import Std.Time.DateTime.Timestamp
/-!
The program: reads the settings file and the database file, runs one command and prints its
report. The clock is read once; later readings within a command follow it in steps of a
microsecond. Identifiers count up from a random number.
-/
namespace TenantWork.Command

def reasonOf : IO.Error → String
  | .noFileOrDirectory _ _ _ => "No such file or directory (os error 2)"
  | .permissionDenied _ _ _ => "Permission denied (os error 13)"
  | other => toString other

def contentOf (path : String) : IO (Except String String) := do
  try
    return .ok (← IO.FS.readFile path)
  catch fault => return .error (reasonOf fault)

def openWorld {Tables : Type} (tables : Tables) : IO (Service.World Tables) := do
  let now := (← Std.Time.Timestamp.now).val
  let seed ← IO.getRandomBytes 16
  let start := seed.foldl (fun n byte => n * 256 + byte.toNat) 0
  let ids (n : Nat) : String := Text.identifier (start + 2 * n)
  let dispatches (n : Nat) : String := Text.identifier (start + 2 * n + 1)
  return {
    store := ⟨tables, .always⟩
    clock := ⟨Time.Instant.epoch.add (now.second.val * 1000000000 + now.nano.val), 1000⟩
    entityIds := fun n => ⟨ids n⟩
    created := 0
    executors := [echoWorker.executor dispatches]
    calls := []
    waiting := []
    ledger := [] }

def openDatabase (path : String) : IO (Except Error Store.Database) := do
  match ← contentOf path with
  | .error _ => return .ok .empty
  | .ok text =>
    match Store.Database.ofText? text with
    | some database => return .ok database
    | none => return .error (.database "file is not a database")

def act (path owner : String) (action : Action) : IO Report := do
  match readSource path (← contentOf path) with
  | .error fault => return .badSource fault
  | .ok source =>
    match prepare source with
    | .error fault => return .failure fault
    | .ok prepared =>
      match prepared.database with
      | none =>
        return (action.run prepared.service owner (← openWorld Store.Memory.empty)).1
      | some options =>
        match options.file? with
        | none =>
          return (action.run prepared.service owner (← openWorld Store.Database.empty)).1
        | some file =>
          match ← openDatabase file with
          | .error fault => return .failure fault
          | .ok database =>
            let (report, world) := action.run prepared.service owner (← openWorld database)
            IO.FS.writeFile file world.store.tables.toText
            return report

def usage : String :=
  "usage: submit | get | list | transition | cancel | retry | dispatch | delete | admin-check\n" ++
  "       with --config FILE and --owner NAME, or --actor NAME for admin-check"

def UsageFault.message : UsageFault → String
  | .help | .nothingAsked => usage
  | .unknownCommand => "error: unrecognized subcommand"
  | .unknownArgument => "error: unexpected argument"
  | .invalidValue => "error: a value is missing or not allowed"
  | .unreadableValue => "error: invalid value"
  | .repeatedArgument => "error: an argument cannot be used multiple times"
  | .missingArgument => "error: a required argument was not provided"
  | .surplusValue => "error: unexpected value"

def perform (arguments : List String) : IO UInt8 := do
  match Task.read arguments with
  | .error .help =>
    IO.println usage
    return UsageFault.help.exitStatus
  | .error fault =>
    IO.eprintln fault.message
    return fault.exitStatus
  | .ok task =>
    let report ← match task with
      | .adminCheck actor => pure (adminReport actor)
      | .act path owner action => act path owner action
    if let some output := report.output then IO.println output.layout
    if let some complaint := report.complaint then IO.eprintln complaint
    return report.exitStatus

end TenantWork.Command

def main (arguments : List String) : IO UInt32 := do
  return (← TenantWork.Command.perform arguments).toUInt32
