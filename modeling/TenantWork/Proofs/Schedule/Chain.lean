import TenantWork.Proofs.Schedule.Conduct
import TenantWork.Proofs.Work.WellFormed
/-!
The snapshots of one entity. Whatever overlaps, the snapshots that come to be stored under an id
follow on one another: the first is that of a new entity, each next one is a declared step from the
one stored before it, and none follows the removal. Calls check the step on a snapshot that may be
outdated by then; what carries the law is that a write replaces the very snapshot it was made from.
-/
namespace TenantWork

/-- A snapshot that may be stored in place of another. -/
structure Entity.Succeeds (current next : Entity) : Prop where
  revision : next.revision = current.revision + 1
  allowed : current.kind.lifecycle.allows current.status next.status = true
  updatedAt : current.updatedAt ≤ next.updatedAt
  id : next.id = current.id
  owner : next.owner = current.owner
  kind : next.kind = current.kind
  payload : next.payload = current.payload
  key : next.key = current.key
  createdAt : next.createdAt = current.createdAt

theorem Entity.succeeds_of_apply {current next : Entity} {request : Transition}
    {now : Time.Instant} (applied : current.apply request now = .ok next) :
    current.Succeeds next.bumped := by
  obtain ⟨allowed, rfl⟩ := Entity.apply_eq_ok_iff.1 applied
  have same := current.entering_same request (Time.Instant.latest now current.updatedAt)
  exact ⟨congrArg (· + 1) same.revision, allowed, Time.Instant.le_latest now current.updatedAt,
    same.id, same.owner, same.kind, same.payload, same.key, same.createdAt⟩

namespace Service

open Store (Memory WriteCall)

/-- The snapshots that were stored under an id, the latest first. -/
def history (trace : List Step) (id : EntityId) : List Entity :=
  (trace.filterMap fun step => step.exchange.stored?).filter fun e => e.id == id

/-- Snapshots that follow on one another, the latest first. -/
inductive Chain (id : EntityId) : List Entity → Prop where
  | unused : Chain id []
  | created (owner : Owner) (kind : Kind) (payload : Json) (key : Option String)
    (now : Time.Instant) : Chain id [Entity.create id owner kind payload key now]
  | updated {current next : Entity} {earlier : List Entity}
    (before : Chain id (current :: earlier)) (succeeds : current.Succeeds next) :
    Chain id (next :: current :: earlier)

/-- Nothing is stored under an id after a removal from it. -/
def EndsWithRemoval (id : EntityId) (trace : List Step) : Prop :=
  ∀ later step earlier, trace = later ++ step :: earlier → step.exchange.removed? = some id →
    ∀ other ∈ later, ∀ e, other.exchange.stored? = some e → e.id ≠ id

section Trace

variable {trace later earlier : List Step} {step : Step} {id : EntityId} {e current : Entity}

theorem mem_history : e ∈ history trace id ↔ WasStored trace e ∧ e.id = id := by
  simp [history, WasStored]

theorem history_of_stored (stored : step.exchange.stored? = some e) :
    history (step :: earlier) id =
      if e.id = id then e :: history earlier id else history earlier id := by
  simp only [history, List.filterMap_cons, stored, List.filter_cons, beq_iff_eq]

theorem history_of_idle (idle : step.exchange.stored? = none) :
    history (step :: earlier) id = history earlier id := by
  simp only [history, List.filterMap_cons, idle]

/-- The stored snapshot is the latest one. -/
theorem history_of_snapshot (found : snapshot trace id = some current) :
    ∃ rest, history trace id = current :: rest := by
  induction trace with
  | nil => cases found
  | cons step earlier ih =>
    obtain ⟨stored, here⟩ | ⟨before, others⟩ := snapshot_cases found
    · exact ⟨history earlier id, by rw [history_of_stored stored, if_pos here.symm]⟩
    · obtain ⟨rest, same⟩ := ih before
      refine ⟨rest, ?_⟩
      cases stored : step.exchange.stored? with
      | none => rw [history_of_idle stored, same]
      | some other => rw [history_of_stored stored, if_neg (others other stored), same]

theorem Follows.history_of_created (follows : Follows earlier step)
    (created : step.exchange.created? = some e) : history earlier e.id = [] := by
  refine List.eq_nil_iff_forall_not_mem.2 fun old inside => ?_
  obtain ⟨before, same⟩ := mem_history.1 inside
  exact (follows.created e created).2.1 old before same

theorem Lawful.chain (lawful : Lawful trace) (id : EntityId) : Chain id (history trace id) := by
  induction trace with
  | nil => exact .unused
  | cons step earlier ih =>
    obtain ⟨follows, lawful⟩ := lawful
    cases stored : step.exchange.stored? with
    | none =>
      rw [history_of_idle stored]
      exact ih lawful
    | some e =>
      rw [history_of_stored stored]
      split
      next here =>
        subst here
        obtain created | updated := Exchange.stored?_cases stored
        · obtain ⟨⟨owner, kind, payload, key, now, made⟩, _⟩ := follows.created e created
          rw [follows.history_of_created created, made]
          exact .created owner kind payload key now
        · obtain ⟨current, request, now, next, there, applied, rfl, _⟩ := follows.updated e updated
          obtain ⟨rest, same⟩ := history_of_snapshot there
          have before := ih lawful
          rw [same] at before ⊢
          exact .updated before (Entity.succeeds_of_apply applied)
      next => exact ih lawful

/-- Once it has been used, an id with nothing stored under it stays so. -/
theorem Lawful.unused_after (lawful : Lawful (later ++ earlier)) {old : Entity}
    (used : WasStored earlier old) (gone : snapshot earlier old.id = none) :
    snapshot (later ++ earlier) old.id = none ∧
      ∀ step ∈ later, ∀ e, step.exchange.stored? = some e → e.id ≠ old.id := by
  induction later with
  | nil => exact ⟨gone, fun step inside => absurd inside List.not_mem_nil⟩
  | cons step later ih =>
    obtain ⟨follows, lawful⟩ : Follows (later ++ earlier) step ∧ Lawful (later ++ earlier) := lawful
    obtain ⟨still, quiet⟩ := ih lawful
    have now (e : Entity) (stored : step.exchange.stored? = some e) : e.id ≠ old.id := by
      intro same
      obtain created | updated := Exchange.stored?_cases stored
      · obtain ⟨writer, inside, stores⟩ := used
        refine (follows.created e created).2.1 old ?_ same.symm
        exact ⟨writer, List.mem_append_right _ inside, stores⟩
      · obtain ⟨current, _, _, _, there, _⟩ := follows.updated e updated
        rw [same, still] at there
        cases there
    constructor
    · rw [List.cons_append]
      cases found : snapshot (step :: (later ++ earlier)) old.id with
      | none => rfl
      | some e =>
        obtain ⟨stored, here⟩ | ⟨before, _⟩ := snapshot_cases found
        · exact absurd here.symm (now e stored)
        · rw [still] at before
          cases before
    · intro other inside
      rcases List.mem_cons.1 inside with rfl | before
      · exact now
      · exact quiet other before

theorem Heeded.endsWithRemoval {clients : List Client} {allows : Rule}
    (heeded : Heeded clients allows trace) (lawful : Lawful trace) (id : EntityId) :
    EndsWithRemoval id trace := by
  rintro later step earlier rfl removes
  obtain ⟨_, _, heeds⟩ := heeded.heeds
  obtain ⟨e, found⟩ := heeds.removed id removes
  obtain rfl := snapshot_id found
  refine (lawful.unused_after ((wasStored_of_snapshot found).later step) ?_).2
  rw [snapshot_of_removed removes, if_pos rfl]

end Trace

/-- The snapshots that come to be stored under an id form one chain, which a removal ends: on an
empty store in memory, for clients with ids of their own, whatever the gate and the executors do,
whatever the clocks show and however the calls overlap. -/
theorem stored_snapshots_form_chain (service : Service) (clients : List Client)
    (executors : List Executor) (rule : List WriteCall → WriteCall → Except Error Unit)
    (distinct : (clients.map Client.id).Nodup) (schedule : List Nat) :
    let system := (System.onEmpty service clients executors rule : System Memory).run schedule
    ∀ id, system.world.store.get id = .ok (snapshot system.trace id) ∧
      Chain id (history system.trace id) ∧ EndsWithRemoval id system.trace := by
  intro system id
  have chronicled : system.Chronicled := System.chronicled_onEmpty distinct schedule
  have heeded : Heeded clients Allowed system.trace :=
    System.heeded_run rfl distinct (fun client _ => script_obeys client service client.operation)
      schedule
  exact ⟨congrArg Except.ok (chronicled.stored id), chronicled.lawful.chain id,
    heeded.endsWithRemoval chronicled.lawful id⟩

/-- A job fails while the clocks run backwards, and is removed while its owner tries it again. -/
theorem chain_ends_before_late_retry :
    let owner : Owner := ⟨"acme", by decide⟩
    let service : Service := ⟨.default, [], List.nodup_nil, nofun⟩
    let late : Time.Instant := ⟨⟨2024, 1, 1, by decide, by decide⟩, 0, 0, by decide, by decide⟩
    let times (n : Nat) : Time.Instant := if n = 0 then late else .epoch
    let clients : List Client := [
      ⟨.submit owner .job (.bool true) (some "nightly"), ⟨"a"⟩, times⟩,
      ⟨.transition owner ⟨"a"⟩ (.into .running), ⟨"b"⟩, times⟩,
      ⟨.transition owner ⟨"a"⟩ (.into .failed), ⟨"c"⟩, times⟩,
      ⟨.retry owner ⟨"a"⟩, ⟨"d"⟩, times⟩,
      ⟨.delete owner ⟨"a"⟩, ⟨"e"⟩, times⟩]
    let schedule := [0, 0, 0, 0, 1, 1, 1, 1, 2, 2, 2, 2, 3, 4, 4, 3, 3]
    let system : System Memory := (System.onEmpty service clients [] fun _ _ => .ok ()).run schedule
    (history system.trace ⟨"a"⟩).map Entity.revision = [2, 1, 0] ∧
      system.answer? 3 = some (.error (.accessDenied "a")) ∧
      Chain ⟨"a"⟩ (history system.trace ⟨"a"⟩) ∧ EndsWithRemoval ⟨"a"⟩ system.trace := by
  refine ⟨by decide, rfl, (stored_snapshots_form_chain _ _ _ _ ?_ _ ⟨"a"⟩).2⟩
  decide

end Service

end TenantWork
