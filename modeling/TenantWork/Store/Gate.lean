import TenantWork.Work.Entity
/-!
The gate before every durable write. It is asked after the write has been found valid and before
anything changes, and an error shuts the write out. Its rule may look at all calls it has had.
-/
namespace TenantWork.Store

/-- A write about to be made durable, with the snapshot it is about. -/
structure WriteCall where
  kind : WriteKind
  entity : Entity
deriving DecidableEq

structure Gate where
  /-- The verdict on a call, from the calls before it, the latest first. -/
  rule : List WriteCall → WriteCall → Except Error Unit
  calls : List WriteCall

namespace Gate

def always : Gate := ⟨fun _ _ => .ok (), []⟩

/-- Shuts out one write, the one with the given number, counted from 1. -/
def refusing (number : Nat) (calls : List WriteCall) (call : WriteCall) : Except Error Unit :=
  if calls.length + 1 = number then
    .error (.commitRejected (.injected number call.kind call.entity.id.text))
  else .ok ()

def failingAt (number : Nat) : Gate := ⟨refusing number, []⟩

/-- The same gate, set to shut out the next write. -/
def failNext (gate : Gate) : Gate := { gate with rule := refusing (gate.calls.length + 1) }

def ask (gate : Gate) (call : WriteCall) : Except Error Unit × Gate :=
  (gate.rule gate.calls call, { gate with calls := call :: gate.calls })

end Gate

end TenantWork.Store
