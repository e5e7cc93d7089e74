import TenantWork.Work.Transition
/-!
What a transition leaves alone and what it sets. A snapshot keeps its id, owner, kind, payload, key,
creation and revision, gets the status asked for, and is stamped no earlier than before. A
transition is carried out exactly if the lifecycle of the kind allows the step. The dispatch is
wiped on the way into the initial status, and only entering the running status may set it.
-/
namespace TenantWork

/-! ## What the lifecycles allow -/

namespace Kind

variable (kind : Kind)

theorem initial_ne_running : kind.lifecycle.initial ≠ kind.lifecycle.running := by
  cases kind <;> decide

theorem success_ne_initial : kind.lifecycle.success ≠ kind.lifecycle.initial := by
  cases kind <;> decide

theorem failure_ne_initial : kind.lifecycle.failure ≠ kind.lifecycle.initial := by
  cases kind <;> decide

theorem success_finished : kind.lifecycle.isFinished kind.lifecycle.success = true := by
  cases kind <;> decide

theorem failure_finished : kind.lifecycle.isFinished kind.lifecycle.failure = true := by
  cases kind <;> decide

theorem initial_unfinished : kind.lifecycle.isFinished kind.lifecycle.initial = false := by
  cases kind <;> decide

theorem declares_initial : kind.lifecycle.declares kind.lifecycle.initial = true := by
  cases kind <;> decide

variable {kind}

theorem declares_of_allows {source target : Status}
    (allowed : kind.lifecycle.allows source target = true) :
    kind.lifecycle.declares target = true := by
  have all : ∀ next ∈ kind.lifecycle.targets source, kind.lifecycle.declares next = true := by
    cases kind <;> cases source <;> decide
  exact all target (List.contains_iff_mem.1 allowed)

/-- A finished status is left only for another try. -/
theorem initial_of_finished {source target : Status}
    (finished : kind.lifecycle.isFinished source = true)
    (allowed : kind.lifecycle.allows source target = true) : target = kind.lifecycle.initial := by
  have only : ∀ next ∈ kind.lifecycle.targets source, next = kind.lifecycle.initial := by
    cases kind <;> cases source <;> first
      | exact absurd finished (by decide)
      | decide
  exact only target (List.contains_iff_mem.1 allowed)

end Kind

namespace Entity

/-- Two snapshots that differ at most in how far the work has come. -/
structure SameWork (e next : Entity) : Prop where
  id : next.id = e.id
  owner : next.owner = e.owner
  kind : next.kind = e.kind
  payload : next.payload = e.payload
  key : next.key = e.key
  createdAt : next.createdAt = e.createdAt
  revision : next.revision = e.revision

namespace SameWork

variable {e a b : Entity}

theorem refl (e : Entity) : SameWork e e := ⟨rfl, rfl, rfl, rfl, rfl, rfl, rfl⟩

theorem ite {c : Prop} [Decidable c] (yes : SameWork e a) (no : SameWork e b) :
    SameWork e (if c then a else b) := by
  split
  · exact yes
  · exact no

theorem started (same : SameWork e a) (stamp : Time.Instant) (dispatch : Option Dispatch) :
    SameWork e (a.started stamp dispatch) := by
  cases dispatch <;> exact ⟨same.1, same.2, same.3, same.4, same.5, same.6, same.7⟩

end SameWork

variable (e : Entity) (request : Transition) (stamp : Time.Instant)

theorem entering_same : SameWork e (e.entering request stamp) := by
  have wiped : SameWork e e.withoutAttempt := ⟨rfl, rfl, rfl, rfl, rfl, rfl, rfl⟩
  have first := SameWork.ite (c := request.target = e.kind.lifecycle.initial) wiped (.refl e)
  have second := SameWork.ite (c := request.target = e.kind.lifecycle.running)
    (first.started stamp request.dispatch) first
  have outcome (a : Entity) (same : SameWork e a) :
      SameWork e (a.succeeded request.result) ∧ SameWork e (a.failed request.failure) ∧
        SameWork e (a.finished stamp) ∧
        SameWork e { a with status := request.target, updatedAt := stamp } :=
    ⟨⟨same.1, same.2, same.3, same.4, same.5, same.6, same.7⟩,
      ⟨same.1, same.2, same.3, same.4, same.5, same.6, same.7⟩,
      ⟨same.1, same.2, same.3, same.4, same.5, same.6, same.7⟩,
      ⟨same.1, same.2, same.3, same.4, same.5, same.6, same.7⟩⟩
  have third := SameWork.ite (c := request.target = e.kind.lifecycle.success)
    (outcome _ second).1
    (SameWork.ite (c := request.target = e.kind.lifecycle.failure) (outcome _ second).2.1 second)
  have fourth := SameWork.ite (c := e.kind.lifecycle.isFinished request.target)
    (outcome _ third).2.2.1 third
  exact (outcome _ fourth).2.2.2

@[simp] theorem entering_id : (e.entering request stamp).id = e.id := (entering_same e request stamp).id

@[simp] theorem entering_owner : (e.entering request stamp).owner = e.owner :=
  (entering_same e request stamp).owner

@[simp] theorem entering_kind : (e.entering request stamp).kind = e.kind :=
  (entering_same e request stamp).kind

@[simp] theorem entering_key : (e.entering request stamp).key = e.key :=
  (entering_same e request stamp).key

@[simp] theorem entering_revision : (e.entering request stamp).revision = e.revision :=
  (entering_same e request stamp).revision

theorem entering_dispatch_initial (initial : request.target = e.kind.lifecycle.initial) :
    (e.entering request stamp).dispatch = none := by
  have apart := e.kind.initial_ne_running
  have unlike := e.kind.success_ne_initial
  have unfailed := e.kind.failure_ne_initial
  simp only [entering, initial, if_true, if_neg apart, if_neg unlike.symm, if_neg unfailed.symm,
    e.kind.initial_unfinished, Bool.false_eq_true, if_false, withoutAttempt]

theorem entering_dispatch_other (initial : request.target ≠ e.kind.lifecycle.initial)
    (running : request.target ≠ e.kind.lifecycle.running) :
    (e.entering request stamp).dispatch = e.dispatch := by
  simp only [entering, if_neg initial, if_neg running, succeeded, failed, finished]
  split <;> split <;> first | rfl | (split <;> rfl)

/-- A transition is carried out exactly if the lifecycle allows the step. -/
theorem apply_eq_ok_iff {e next : Entity} {request : Transition} {now : Time.Instant} :
    e.apply request now = .ok next ↔
      e.kind.lifecycle.allows e.status request.target = true ∧
        next = e.entering request (Time.Instant.latest now e.updatedAt) := by
  unfold apply checkStep
  by_cases allowed : e.kind.lifecycle.allows e.status request.target = true
  · simp [allowed, eq_comm]
  · simp [allowed]

end Entity

end TenantWork
