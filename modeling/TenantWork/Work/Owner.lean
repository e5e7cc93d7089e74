import TenantWork.Error
/-!
Owners, the tenants that units of work belong to. An owner's name is never blank, and it is kept
exactly as given.
-/
namespace TenantWork

structure Owner where
  name : String
  named : Text.isBlank name = false
deriving DecidableEq, Repr

namespace Owner

def ofName (name : String) : Except Error Owner :=
  if named : Text.isBlank name = false then .ok ⟨name, named⟩
  else .error (.invalidInput .blankOwner)

theorem ofName_name (owner : Owner) : ofName owner.name = .ok owner := by
  rw [ofName, dif_pos owner.named]

end Owner

/-- The kind a caller means, or the complaint about it. -/
def Kind.parse (text : String) : Except Error Kind :=
  match Kind.ofText? text with
  | some kind => .ok kind
  | none => .error (.invalidInput (.unknownKind text))

/-- The status a caller means, or the complaint about it. -/
def Status.parse (text : String) : Except Error Status :=
  match Status.ofText? text with
  | some status => .ok status
  | none => .error (.invalidInput (.unknownStatus text))

end TenantWork
