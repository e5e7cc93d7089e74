import TenantWork.Proofs.Schedule.System
/-!
Clients one after another. A schedule that serves each client to its end before the next is a
sequence of whole calls: same answers, same world, same exchanges.
-/
namespace TenantWork.Service

open Store (Storage)

variable {Tables : Type} [Storage Tables]

/-- What a program exchanges when nobody else acts, the latest first. -/
def Program.exchanges {α : Type} (client : Client) :
    Nat → World Tables → Program α → List Exchange
  | _, _, .done _ => []
  | n, world, .ask request next =>
    let (reply, world) := (world.seenBy client n).answer request
    (next reply).exchanges client (n + 1) world ++ [⟨request, reply⟩]

namespace System

end System

end TenantWork.Service
