import TenantWork.Error
/-!
Who may act across owners. An actor is an administrator by the role of that name or by a level at
or above the threshold, the role being looked at first. The older flag never makes one; it is
recognised only to name it as the reason of a refusal. A grant can be had in no other way.
-/
namespace TenantWork.Access

/-- What is known of an actor. -/
structure Capabilities where
  actor : String
  role : Option String
  level : Option Int
  legacyFlag : Option Bool
deriving DecidableEq, Repr

inductive Source where
  | role
  | level
  | legacyFlagRejected
  | default
deriving DecidableEq, Repr

def Source.name : Source → String
  | .role => "role"
  | .level => "level"
  | .legacyFlagRejected => "legacy_flag_rejected"
  | .default => "default"

structure Decision where
  isAdmin : Bool
  source : Source
deriving DecidableEq, Repr

def adminLevel : Int := 100

def Capabilities.hasAdminRole (actor : Capabilities) : Bool :=
  match actor.role with
  | some role => Text.fold role == "admin"
  | none => false

def Capabilities.hasAdminLevel (actor : Capabilities) : Bool :=
  match actor.level with
  | some level => decide (adminLevel ≤ level)
  | none => false

def decideAdmin (actor : Capabilities) : Decision :=
  if actor.hasAdminRole then ⟨true, .role⟩
  else if actor.hasAdminLevel then ⟨true, .level⟩
  else if actor.legacyFlag.isSome then ⟨false, .legacyFlagRejected⟩
  else ⟨false, .default⟩

/-- The right of an actor to act across owners. -/
structure Grant where
  capabilities : Capabilities
  deserved : (decideAdmin capabilities).isAdmin = true
deriving DecidableEq

namespace Grant

def actor (grant : Grant) : String := grant.capabilities.actor

def source (grant : Grant) : Source := (decideAdmin grant.capabilities).source

def authorize (actor : Capabilities) : Except Error Grant :=
  if deserved : (decideAdmin actor).isAdmin = true then .ok ⟨actor, deserved⟩
  else .error (.accessDenied ("admin:" ++ actor.actor))

end Grant

end TenantWork.Access
