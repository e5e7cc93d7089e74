import TenantWork.Proofs.Schedule.Backends
import TenantWork.Proofs.Work.WellFormed
/-!
What is stored in every run. Each stored snapshot is well formed and goes back to the one snapshot
that its entity was inserted as; work that waits in its initial status, the first time or after any
number of retries, is that snapshot but for its last update and the number of updates.
-/
namespace TenantWork.Service

open Store (Memory WriteCall)

theorem Entity.asCreated_of_sameWork {e next : Entity} (same : e.SameWork next) :
    next.asCreated = e.asCreated := by
  simp only [Entity.asCreated, same.id, same.owner, same.kind, same.payload, same.key,
    same.createdAt]

section Trace

variable {trace : List Step} {e : Entity}

theorem Lawful.wellFormed (lawful : Lawful trace) (stored : WasStored trace e) : e.WellFormed := by
  induction trace generalizing e with
  | nil =>
    obtain ⟨_, inside, _⟩ := stored
    cases inside
  | cons step earlier ih =>
    obtain ⟨follows, lawful⟩ := lawful
    obtain stores | before := wasStored_cons.1 stored
    · obtain created | updated := Exchange.stored?_cases stores
      · obtain ⟨⟨owner, kind, payload, key, now, made⟩, _⟩ := follows.created e created
        rw [made]
        exact Entity.create_wellFormed _ _ _ _ _ _
      · obtain ⟨current, request, now, next, there, applied, rfl, _⟩ := follows.updated e updated
        have wellFormed := ih lawful (wasStored_of_snapshot there)
        exact (wellFormed.apply applied).bumped
    · exact ih lawful before

/-- Every stored snapshot goes back to the insertion of the same work, untried. -/
theorem Lawful.created_first (lawful : Lawful trace) (stored : WasStored trace e) :
    ∃ step ∈ trace, step.exchange.created? = some e.asCreated := by
  induction trace generalizing e with
  | nil =>
    obtain ⟨_, inside, _⟩ := stored
    cases inside
  | cons step earlier ih =>
    obtain ⟨follows, lawful⟩ := lawful
    have later {e : Entity} (before : WasStored earlier e) :
        ∃ old ∈ step :: earlier, old.exchange.created? = some e.asCreated := by
      obtain ⟨old, inside, created⟩ := ih lawful before
      exact ⟨old, List.mem_cons_of_mem _ inside, created⟩
    obtain stores | before := wasStored_cons.1 stored
    · obtain created | updated := Exchange.stored?_cases stores
      · refine ⟨step, List.mem_cons_self, ?_⟩
        obtain ⟨⟨owner, kind, payload, key, now, made⟩, _⟩ := follows.created e created
        rw [created, made]
        rfl
      · obtain ⟨current, request, now, next, there, applied, rfl, _⟩ := follows.updated e updated
        obtain ⟨_, rfl⟩ := Entity.apply_eq_ok_iff.1 applied
        have same := Entity.asCreated_of_sameWork
          (current.entering_same request (Time.Instant.latest now current.updatedAt))
        show ∃ old ∈ step :: earlier, old.exchange.created? = some (current.entering _ _).asCreated
        rw [same]
        exact later (wasStored_of_snapshot there)
    · exact later before

/-- No two insertions are of one entity. -/
theorem Lawful.created_once (lawful : Lawful trace) {a b : Step} {x y : Entity}
    (insideA : a ∈ trace) (insideB : b ∈ trace) (createdA : a.exchange.created? = some x)
    (createdB : b.exchange.created? = some y) (same : x.id = y.id) : x = y := by
  induction trace with
  | nil => cases insideA
  | cons step earlier ih =>
    obtain ⟨follows, lawful⟩ := lawful
    have fresh {x y : Entity} (created : step.exchange.created? = some x)
        (before : ∃ old ∈ earlier, old.exchange.created? = some y) : y.id ≠ x.id := by
      obtain ⟨old, inside, stores⟩ := before
      exact (follows.created x created).2.1 y ⟨old, inside, Exchange.stored?_of_created? stores⟩
    rcases List.mem_cons.1 insideA with rfl | beforeA
    · rcases List.mem_cons.1 insideB with rfl | beforeB
      · exact Option.some.inj (createdA.symm.trans createdB)
      · exact absurd same.symm (fresh createdA ⟨b, beforeB, createdB⟩)
    · rcases List.mem_cons.1 insideB with rfl | beforeB
      · exact absurd same (fresh createdB ⟨a, beforeA, createdA⟩)
      · exact ih lawful beforeA beforeB

end Trace

/-- Stored work is well formed in every run on an empty store in memory, whatever is asked for,
whatever the clocks show and however the calls overlap. It goes back to one insertion, and in its
initial status it is what was inserted but for its last update and the number of updates. -/
theorem stored_work_wellFormed (service : Service) (clients : List Client)
    (executors : List Executor) (rule : List WriteCall → WriteCall → Except Error Unit)
    (distinct : (clients.map Client.id).Nodup) (schedule : List Nat) :
    let system := (System.onEmpty service clients executors rule : System Memory).run schedule
    ∀ id e, system.world.store.get id = .ok (some e) →
      e.WellFormed ∧ ∃ first, first.id = id ∧
        (∃ step ∈ system.trace, step.exchange.created? = some first) ∧
        (∀ step ∈ system.trace, ∀ other, step.exchange.created? = some other → other.id = id →
          other = first) ∧
        (e.status = e.kind.lifecycle.initial →
          e = { first with updatedAt := e.updatedAt, revision := e.revision }) := by
  intro system id e found
  have chronicled : system.Chronicled := System.chronicled_onEmpty distinct schedule
  have there : snapshot system.trace id = some e := by
    rw [← chronicled.stored]
    exact Except.ok.inj found
  have stored := wasStored_of_snapshot there
  have wellFormed := chronicled.lawful.wellFormed stored
  have inserted := chronicled.lawful.created_first stored
  have own : e.id = id := snapshot_id there
  refine ⟨wellFormed, e.asCreated, own, inserted, ?_, wellFormed.untried⟩
  intro step inside other created same
  obtain ⟨first, within, begins⟩ := inserted
  exact chronicled.lawful.created_once inside within created begins (same.trans own.symm)

/-- A job fails twice and is tried again, while the clocks run backwards. -/
theorem stored_work_after_retries :
    let owner : Owner := ⟨"acme", by decide⟩
    let service : Service := ⟨.default, [], List.nodup_nil, nofun⟩
    let late : Time.Instant := ⟨⟨2024, 1, 1, by decide, by decide⟩, 0, 0, by decide, by decide⟩
    let times (n : Nat) : Time.Instant := if n = 0 then late else .epoch
    let clients : List Client := [
      ⟨.submit owner .job (.bool true) none, ⟨"a"⟩, times⟩,
      ⟨.transition owner ⟨"a"⟩ ((Transition.into .running).withDispatch "x" none), ⟨"b"⟩, times⟩,
      ⟨.transition owner ⟨"a"⟩ ((Transition.into .failed).withResult .null), ⟨"c"⟩, times⟩,
      ⟨.retry owner ⟨"a"⟩, ⟨"d"⟩, times⟩,
      ⟨.dispatch owner ⟨"a"⟩, ⟨"e"⟩, times⟩,
      ⟨.retry owner ⟨"a"⟩, ⟨"f"⟩, times⟩]
    let schedule := [0, 0, 0, 1, 1, 1, 2, 2, 2, 3, 3, 3, 4, 4, 4, 4, 4, 4, 4, 5, 5, 5]
    let system : System Memory := (System.onEmpty service clients [] fun _ _ => .ok ()).run schedule
    let e : Entity := { Entity.create ⟨"a"⟩ owner .job (.bool true) none late with revision := 6 }
    system.world.store.get ⟨"a"⟩ = .ok (some e) ∧ e.WellFormed := by
  refine ⟨?found, (stored_work_wellFormed _ _ _ _ ?distinct _ ⟨"a"⟩ _ ?found).1⟩
  case distinct => decide
  case found => exact congrArg Except.ok (by decide +kernel)

end TenantWork.Service
