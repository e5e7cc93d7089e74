import TenantWork.Work.Kind
import TenantWork.Work.Status
/-!
The lifecycle of each kind of work: the statuses it declares, the steps between them, and the
statuses with a role. A status is terminal when it is declared and nothing leads out of it; it is
finished when it is terminal or the failure status, which only a retry leaves.
-/
namespace TenantWork

structure Lifecycle where
  initial : Status
  running : Status
  success : Status
  failure : Status
  cancel : Status
  /-- Each declared status with the statuses that may follow it. -/
  steps : List (Status × List Status)
deriving DecidableEq, Repr

namespace Lifecycle

def statuses (cycle : Lifecycle) : List Status := cycle.steps.map (·.1)

def declares (cycle : Lifecycle) (status : Status) : Bool := cycle.statuses.contains status

/-- What may follow a status; nothing follows one that is not declared. -/
def targets (cycle : Lifecycle) (source : Status) : List Status :=
  match cycle.steps.find? fun step => step.1 == source with
  | some (_, targets) => targets
  | none => []

def allows (cycle : Lifecycle) (source target : Status) : Bool :=
  (cycle.targets source).contains target

def isTerminal (cycle : Lifecycle) (status : Status) : Bool :=
  cycle.declares status && (cycle.targets status).isEmpty

def isFinished (cycle : Lifecycle) (status : Status) : Bool :=
  cycle.isTerminal status || (cycle.declares status && status == cycle.failure)

/-- Jobs and backtests run, and may be tried again after a failure. -/
def run : Lifecycle where
  initial := .queued
  running := .running
  success := .succeeded
  failure := .failed
  cancel := .cancelled
  steps := [
    (.queued, [.running, .cancelled]),
    (.running, [.succeeded, .failed, .cancelled]),
    (.failed, [.queued]),
    (.succeeded, []),
    (.cancelled, [])]

/-- Signals may expire before they are processed. -/
def signal : Lifecycle where
  initial := .pending
  running := .processing
  success := .processed
  failure := .failed
  cancel := .cancelled
  steps := [
    (.pending, [.processing, .expired, .cancelled]),
    (.processing, [.processed, .failed]),
    (.failed, [.pending]),
    (.processed, []),
    (.expired, []),
    (.cancelled, [])]

/-- Orders may be filled in part, and are never tried again. -/
def order : Lifecycle where
  initial := .pending
  running := .submitted
  success := .filled
  failure := .rejected
  cancel := .cancelled
  steps := [
    (.pending, [.submitted, .rejected, .cancelled]),
    (.submitted, [.partiallyFilled, .filled, .rejected, .cancelled]),
    (.partiallyFilled, [.filled, .cancelled]),
    (.filled, []),
    (.rejected, []),
    (.cancelled, [])]

end Lifecycle

def Kind.lifecycle : Kind → Lifecycle
  | .job => .run
  | .backtestTask => .run
  | .tradingSignal => .signal
  | .tradeOrder => .order

end TenantWork
